import Mathlib.Data.List.Chain
import Mathlib.Tactic.Linarith

/-!
# A period observed by polls

From `start` on, a period begins every `p` units of time, and somebody looks at the clock at
certain times. `crossings` are the polls before which a period has begun that the poll before
did not see. When polls are never further apart than a period, the `i`-th of them is the
first poll at or after the time `start + p * (i + 1)` (`getElem?_crossings`): none is lost and
the delays do not add up.
-/

namespace ArduinoProjects.Util

/-- How many periods have begun by the time `t`. -/
def turn (p start t : ℕ) : ℕ := (t - start) / p

/-- The polls that find a new period, the last poll before them being at time `prev`. -/
def crossings (p start : ℕ) : ℕ → List ℕ → List ℕ
  | _, [] => []
  | prev, t :: ts =>
    if turn p start prev < turn p start t then t :: crossings p start t ts
    else crossings p start t ts

/-- Polls in order of time, the first one not before `prev`, none further than `gap` from the
one before it. -/
def Polls (gap prev : ℕ) (ts : List ℕ) : Prop :=
  (prev :: ts).IsChain fun a b => a ≤ b ∧ b ≤ a + gap

section
variable {p start prev t gap : ℕ} {ts : List ℕ}

lemma polls_cons : Polls gap prev (t :: ts) ↔ (prev ≤ t ∧ t ≤ prev + gap) ∧ Polls gap t ts :=
  List.isChain_cons_cons

lemma Polls.mono {gap' : ℕ} (h : gap ≤ gap') (hts : Polls gap prev ts) : Polls gap' prev ts :=
  List.IsChain.imp (fun _ _ hab => ⟨hab.1, hab.2.trans (Nat.add_le_add_left h _)⟩) hts

lemma turn_self (p start : ℕ) : turn p start start = 0 := by
  rw [turn, Nat.sub_self, Nat.zero_div]

/-- The last beginning of a period is not after the time, the next one is. -/
lemma turn_bounds (hp : 0 < p) (h : start ≤ t) :
    start + p * turn p start t ≤ t ∧ t < start + p * turn p start t + p := by
  have hdiv := Nat.div_add_mod (t - start) p
  have hlt := Nat.mod_lt (t - start) hp
  rw [turn]
  omega

lemma le_turn_iff (hp : 0 < p) (h : start ≤ t) {k : ℕ} :
    k ≤ turn p start t ↔ start + p * k ≤ t := by
  rw [turn, Nat.le_div_iff_mul_le hp, Nat.mul_comm]
  omega

/-- Counting from the beginning of a later period. -/
lemma turn_add_mul (hp : 0 < p) {k : ℕ} (h : start + p * k ≤ t) :
    k + turn p (start + p * k) t = turn p start t := by
  have hk : k ≤ (t - start) / p := (Nat.le_div_iff_mul_le hp).mpr (by rw [Nat.mul_comm]; omega)
  rw [turn, turn, ← Nat.sub_sub, Nat.sub_mul_div, Nat.add_sub_cancel' hk]

lemma turn_mono (h : prev ≤ t) : turn p start prev ≤ turn p start t :=
  Nat.div_le_div_right (Nat.sub_le_sub_right h start)

/-- Polls without gaps of more than a period miss none of its beginnings. -/
theorem getElem?_crossings (hp : 0 < p) (hstart : start ≤ prev) (hts : Polls p prev ts) (i : ℕ) :
    (crossings p start prev ts)[i]? =
      ts.find? fun t => start + p * (turn p start prev + (i + 1)) ≤ t := by
  induction ts generalizing prev i with
  | nil => rfl
  | cons t ts ih =>
    obtain ⟨⟨hle, hgap⟩, hrest⟩ := polls_cons.mp hts
    have hst := hstart.trans hle
    have hprev := turn_bounds hp hstart
    rw [crossings]
    split
    · next hnew =>
      -- the poll lies in the next period
      have hturn : turn p start t = turn p start prev + 1 := by
        have hnot : ¬ turn p start prev + 2 ≤ turn p start t := by
          rw [le_turn_iff hp hst, Nat.mul_add]
          omega
        omega
      cases i with
      | zero =>
        have hfirst := (le_turn_iff hp hst).mp hturn.ge
        rw [List.getElem?_cons_zero, List.find?_cons_of_pos (by simpa using hfirst)]
      | succ i =>
        have hlater : ¬ start + p * (turn p start prev + (i + 1 + 1)) ≤ t := by
          rw [← le_turn_iff hp hst]
          omega
        rw [List.getElem?_cons_succ, List.find?_cons_of_neg (by simpa using hlater),
          ih hst hrest, hturn, Nat.add_assoc, Nat.add_comm 1 (i + 1)]
    · next hsame =>
      have hturn : turn p start t = turn p start prev :=
        le_antisymm (not_lt.mp hsame) (turn_mono hle)
      have hlater : ¬ start + p * (turn p start prev + (i + 1)) ≤ t := by
        rw [← le_turn_iff hp hst]
        omega
      rw [List.find?_cons_of_neg (by simpa using hlater), ih hst hrest, hturn]

end

end ArduinoProjects.Util
