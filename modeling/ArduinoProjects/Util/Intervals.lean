import Mathlib.Data.Nat.Find
import Mathlib.Order.Basic
import Mathlib.Order.Monotone.Basic
import Mathlib.Tactic.Linarith

/-!
# Consecutive intervals of given lengths

The natural numbers cut into intervals, interval `i` with `len i` points. `At len n i r`
places the point `n` at offset `r` of interval `i`. Every point has exactly one place
(`At.unique`, `exists_at`), and points are ordered as their places are (`At.lt_iff`).
A program that finds the place by walking over the intervals is right as soon as it ends
at some `At`.
-/

namespace ArduinoProjects.Util

/-- Where interval `i` begins. -/
def start (len : ℕ → ℕ) : ℕ → ℕ
  | 0 => 0
  | i + 1 => start len i + len i

/-- The point `n` lies in interval `i`, at offset `r`. -/
structure At (len : ℕ → ℕ) (n i r : ℕ) : Prop where
  lt : r < len i
  eq : n = start len i + r

section
variable {len : ℕ → ℕ}

@[simp] lemma start_zero (len : ℕ → ℕ) : start len 0 = 0 := rfl

lemma start_succ (len : ℕ → ℕ) (i : ℕ) : start len (i + 1) = start len i + len i := rfl

lemma start_mono (len : ℕ → ℕ) : Monotone (start len) :=
  monotone_nat_of_le_succ fun i => by
    rw [start_succ]
    exact Nat.le_add_right _ _

/-- The beginning of an interval depends on the lengths before it only. -/
lemma start_congr {len len' : ℕ → ℕ} {i : ℕ} (h : ∀ j < i, len j = len' j) :
    start len i = start len' i := by
  induction i with
  | zero => rfl
  | succ i ih =>
    rw [start_succ, start_succ, ih fun j hj => h j (by omega), h i (Nat.lt_succ_self i)]

/-- Lengths that are sums. -/
lemma start_fun_add (len len' : ℕ → ℕ) (i : ℕ) :
    start (fun j => len j + len' j) i = start len i + start len' i := by
  induction i with
  | zero => rfl
  | succ i ih =>
    rw [start_succ, start_succ, start_succ, ih]
    omega

lemma start_const (k i : ℕ) : start (fun _ => k) i = k * i := by
  induction i with
  | zero => rfl
  | succ i ih => rw [start_succ, ih, Nat.mul_succ]

/-- Between `k` and `K` points in each interval. -/
lemma start_bounds {k K : ℕ} (h : ∀ i, k ≤ len i ∧ len i ≤ K) (i : ℕ) :
    k * i ≤ start len i ∧ start len i ≤ K * i := by
  induction i with
  | zero => exact ⟨le_rfl, le_rfl⟩
  | succ i ih =>
    have hi := h i
    rw [start_succ, Nat.mul_succ, Nat.mul_succ]
    omega

namespace At

variable {n n' i i' r r' : ℕ}

lemma start_le (h : At len n i r) : start len i ≤ n := by
  have := h.eq
  omega

lemma lt_start_succ (h : At len n i r) : n < start len (i + 1) := by
  rw [start_succ, h.eq]
  exact Nat.add_lt_add_left h.lt _

/-- Points in different intervals are ordered as these are. -/
lemma lt_of_lt (h : At len n i r) (h' : At len n' i' r') (hi : i < i') : n < n' := by
  have h1 := h.lt_start_succ
  have h2 := h'.start_le
  have h3 := start_mono len (Nat.succ_le_of_lt hi)
  exact lt_of_lt_of_le h1 (le_trans h3 h2)

/-- Places are ordered by the interval first and by the offset in it second. -/
theorem lt_iff (h : At len n i r) (h' : At len n' i' r') :
    n < n' ↔ i < i' ∨ (i = i' ∧ r < r') := by
  rcases Nat.lt_trichotomy i i' with hlt | rfl | hgt
  · exact iff_of_true (h.lt_of_lt h' hlt) (Or.inl hlt)
  · have h1 := h.eq
    have h2 := h'.eq
    omega
  · have h1 := h'.lt_of_lt h hgt
    omega

/-- A point has one place. -/
theorem unique (h : At len n i r) (h' : At len n i' r') : i = i' ∧ r = r' := by
  have hi : i = i' := by
    rcases Nat.lt_trichotomy i i' with hlt | rfl | hgt
    · exact absurd (h.lt_of_lt h' hlt) (lt_irrefl n)
    · rfl
    · exact absurd (h'.lt_of_lt h hgt) (lt_irrefl n)
  subst hi
  have h1 := h.eq
  have h2 := h'.eq
  exact ⟨rfl, by omega⟩

/-- The next point: in the same interval, or at the beginning of the next one. -/
lemma succ (h : At len n i r) :
    (r + 1 < len i → At len (n + 1) i (r + 1)) ∧
      (r + 1 = len i → 0 < len (i + 1) → At len (n + 1) (i + 1) 0) := by
  have heq := h.eq
  refine ⟨fun hlt => ⟨hlt, by omega⟩, fun hlast hpos => ⟨hpos, ?_⟩⟩
  rw [start_succ]
  omega

end At

/-- Intervals that are never empty reach every point. -/
theorem exists_at (hpos : ∀ i, 0 < len i) (n : ℕ) : ∃ i r, At len n i r := by
  induction n with
  | zero => exact ⟨0, 0, hpos 0, rfl⟩
  | succ n ih =>
    obtain ⟨i, r, h⟩ := ih
    rcases Nat.lt_or_ge (r + 1) (len i) with hlt | hge
    · exact ⟨i, r + 1, h.succ.1 hlt⟩
    · have hlast : r + 1 = len i := le_antisymm h.lt hge
      exact ⟨i + 1, 0, h.succ.2 hlast (hpos _)⟩

end

end ArduinoProjects.Util
