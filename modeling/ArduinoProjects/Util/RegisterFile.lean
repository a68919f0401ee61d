import ArduinoProjects.Util.Overlay
import Mathlib.Logic.Function.Iterate

/-!
# Registers that change while they are written

A device on a bus stores the bytes of a message in consecutive registers and has an
activity of its own, `tick`, which may happen any number of times between two bytes.
While the device is in a state in which it does nothing of its own, a message is stored
as if there were no ticks (`deliver_of_frozen`).
-/

namespace ArduinoProjects.Util

variable {α : Type*}

/-- Store a message from register `ptr` on. Before byte `i` of the message the device
ticks `gaps i` times, and once more so behind the last byte. -/
def deliver (tick : (ℕ → α) → ℕ → α) (gaps : ℕ → ℕ) :
    ℕ → ℕ → List α → (ℕ → α) → ℕ → α
  | i, _, [], r => tick^[gaps i] r
  | i, ptr, b :: l, r =>
    deliver tick gaps (i + 1) (ptr + 1) l (Function.update (tick^[gaps i] r) ptr b)

section
variable {tick : (ℕ → α) → ℕ → α} {gaps : ℕ → ℕ}

lemma deliver_nil (i ptr : ℕ) (r : ℕ → α) :
    deliver tick gaps i ptr [] r = tick^[gaps i] r := rfl

lemma deliver_cons (i ptr : ℕ) (b : α) (l : List α) (r : ℕ → α) :
    deliver tick gaps i ptr (b :: l) r =
      deliver tick gaps (i + 1) (ptr + 1) l (Function.update (tick^[gaps i] r) ptr b) := rfl

/-- A device that does nothing of its own in the states `P`, and that no byte of the message
takes out of them, stores the message undisturbed. -/
theorem deliver_of_frozen (gaps : ℕ → ℕ) {P : (ℕ → α) → Prop} (htick : ∀ r, P r → tick r = r)
    {ptr₀ : ℕ} (hkeep : ∀ r j b, ptr₀ ≤ j → P r → P (Function.update r j b))
    (i : ℕ) {ptr : ℕ} (hptr : ptr₀ ≤ ptr) (l : List α) {r : ℕ → α} (hr : P r) :
    deliver tick gaps i ptr l r = fillFrom ptr r l ∧ P (deliver tick gaps i ptr l r) := by
  induction l generalizing i ptr r with
  | nil =>
    rw [deliver_nil, Function.iterate_fixed (htick r hr)]
    exact ⟨rfl, hr⟩
  | cons b l ih =>
    rw [deliver_cons, Function.iterate_fixed (htick r hr)]
    exact ih (i + 1) (Nat.le_succ_of_le hptr) (hkeep r ptr b hptr hr)

/-- A message between the bytes of which the device does not tick. -/
lemma deliver_of_still (i ptr : ℕ) (l : List α) (r : ℕ → α)
    (hstill : ∀ j, i ≤ j → j < i + l.length → gaps j = 0) :
    deliver tick gaps i ptr l r = tick^[gaps (i + l.length)] (fillFrom ptr r l) := by
  induction l generalizing i ptr r with
  | nil => rfl
  | cons b l ih =>
    have hi : gaps i = 0 := hstill i le_rfl (by rw [List.length_cons]; omega)
    rw [deliver_cons, hi, ih (i + 1) (ptr + 1) _ fun j hj hlt =>
      hstill j (by omega) (by rw [List.length_cons]; omega), List.length_cons, Nat.add_right_comm,
      Nat.add_assoc]
    rfl

/-- A later store in front of the message could as well have come first. -/
lemma update_fillFrom {i ptr : ℕ} (h : i < ptr) (b : α) (l : List α) (r : ℕ → α) :
    Function.update (fillFrom ptr r l) i b = fillFrom ptr (Function.update r i b) l := by
  ext j
  rw [fillFrom_apply, Function.update_apply, Function.update_apply, fillFrom_apply]
  by_cases hj : j = i
  · rw [if_pos hj, if_pos hj, if_neg (by omega)]
  · rw [if_neg hj, if_neg hj]

end

end ArduinoProjects.Util
