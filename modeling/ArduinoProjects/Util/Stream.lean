import Mathlib.Algebra.NeZero
import Mathlib.Data.List.Range
import Mathlib.Tactic.NormNum

/-!
# Streams of fixed-size records

A sequence of records of `k` items each, read as one stream of items: `concat`, and the
stretches of it that a receiver gets in one go (`segment`).
-/

namespace ArduinoProjects.Util

variable {α : Type*} {k : ℕ} [NeZero k]

/-- Item `n` of the stream. -/
def concat (records : ℕ → Vector α k) (n : ℕ) : α :=
  (records (n / k)).get ⟨n % k, Nat.mod_lt n (NeZero.pos k)⟩

/-- The `w` items of the stream from position `a` on. -/
def segment (records : ℕ → Vector α k) (a w : ℕ) : List α :=
  (List.range' a w).map (concat records)

@[simp] lemma length_segment (records : ℕ → Vector α k) (a w : ℕ) :
    (segment records a w).length = w := by
  rw [segment, List.length_map, List.length_range']

@[simp] lemma segment_zero (records : ℕ → Vector α k) (a : ℕ) : segment records a 0 = [] := rfl

/-- The first item comes off the front. -/
lemma segment_succ (records : ℕ → Vector α k) (a w : ℕ) :
    segment records a (w + 1) = concat records a :: segment records (a + 1) w := by
  rw [segment, List.range'_succ, List.map_cons]
  rfl

/-- A further item goes to the end. -/
lemma segment_concat (records : ℕ → Vector α k) (a w : ℕ) :
    segment records a (w + 1) = segment records a w ++ [concat records (a + w)] := by
  rw [segment, List.range'_concat, one_mul, List.map_append, List.map_singleton]
  rfl

lemma segment_eq_nil_iff (records : ℕ → Vector α k) (a w : ℕ) :
    segment records a w = [] ↔ w = 0 := by
  rw [← List.length_eq_zero_iff, length_segment]

lemma concat_mul_add (records : ℕ → Vector α k) (r : ℕ) {j : ℕ} (h : j < k) :
    concat records (k * r + j) = (records r).get ⟨j, h⟩ := by
  have hdiv : (k * r + j) / k = r := by
    rw [Nat.mul_add_div (NeZero.pos k), Nat.div_eq_of_lt h, Nat.add_zero]
  have hmod : (k * r + j) % k = j := by
    rw [Nat.mul_add_mod, Nat.mod_eq_of_lt h]
  unfold concat
  congr 1
  · rw [hdiv]
  · exact Fin.ext hmod

/-- The `k` items from position `k * r` on are record `r`. -/
theorem segment_block (records : ℕ → Vector α k) (r : ℕ) :
    segment records (k * r) k = (records r).toList := by
  apply List.ext_getElem
  · rw [length_segment, Vector.length_toList]
  · intro j hj hj'
    rw [length_segment] at hj
    simp only [segment, List.getElem_map, List.getElem_range', one_mul, concat_mul_add _ _ hj]
    rfl

end ArduinoProjects.Util
