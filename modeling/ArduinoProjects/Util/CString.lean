import Mathlib.Data.List.TakeWhile
import Mathlib.Data.UInt

/-!
# Texts that end at a NUL

A function that is given the address of a character array reads the text that begins
there, up to the first NUL in memory, inside the array or behind it. `cstring_append_eq_iff`
says when that text is what the array holds.
-/

namespace ArduinoProjects.Util

/-- The text at the beginning of a stretch of memory. -/
def cstring (mem : List UInt8) : List UInt8 := mem.takeWhile (· ≠ 0)

/-- A text without a NUL goes on with what stands behind it. -/
lemma cstring_append {l : List UInt8} (h : 0 ∉ l) (behind : List UInt8) :
    cstring (l ++ behind) = l ++ cstring behind := by
  apply List.takeWhile_append_of_pos
  intro b hb
  rw [decide_eq_true_eq]
  rintro rfl
  exact h hb

/-- A text ends at its first NUL, whatever stands behind. -/
lemma cstring_append_of_mem {l : List UInt8} (h : 0 ∈ l) (behind : List UInt8) :
    cstring (l ++ behind) = cstring l := by
  have hshort : (cstring l).length ≠ l.length := by
    intro hlen
    have hall := List.takeWhile_eq_self_iff.mp ((List.takeWhile_prefix _).eq_of_length hlen)
    exact of_decide_eq_true (hall 0 h) rfl
  exact List.takeWhile_append.trans (if_neg hshort)

lemma cstring_append_zero (l behind : List UInt8) : cstring (l ++ 0 :: behind) = cstring l := by
  by_cases h : 0 ∈ l
  · exact cstring_append_of_mem h _
  · have hself := cstring_append h []
    rw [List.append_nil] at hself
    rw [cstring_append h, hself]
    rfl

lemma cstring_eq_nil_iff (mem : List UInt8) : cstring mem = [] ↔ mem.headD 0 = 0 := by
  cases mem with
  | nil => exact iff_of_true rfl rfl
  | cons b mem =>
    rw [cstring, List.takeWhile_cons, List.headD_cons]
    split
    · next hb => exact iff_of_false (List.cons_ne_nil _ _) (of_decide_eq_true hb)
    · next hb => exact iff_of_true rfl (by simpa using hb)

/-- The array holds the text iff a NUL stands behind it. -/
theorem cstring_append_eq_iff {l : List UInt8} (h : 0 ∉ l) (behind : List UInt8) :
    cstring (l ++ behind) = l ↔ behind.headD 0 = 0 := by
  rw [cstring_append h, List.append_right_eq_self, cstring_eq_nil_iff]

end ArduinoProjects.Util
