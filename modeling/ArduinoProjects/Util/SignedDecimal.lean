import ArduinoProjects.Util.Decimal
import Mathlib.Data.List.DropRight
import Mathlib.Data.Rat.Defs
import Mathlib.Tactic.NormNum

/-!
# Signed decimal texts

`readSigned` gives the number that a sign, digits, a point and more digits stand for, with
blanks allowed behind them. `readSigned_text` is the way back from a text of this form.
-/

namespace ArduinoProjects.Util

instance : DecidablePred IsDigit := fun _ => inferInstanceAs (Decidable (_ ∧ _))

/-- The number in a text of the form `±digits.digits`, blanks behind it ignored. -/
def readSigned (l : List UInt8) : Option ℚ :=
  match (l.rdropWhile (· = ascii ' ')).splitOn (ascii '.') with
  | [sign :: whole, fraction] =>
    if whole ≠ [] ∧ fraction ≠ [] ∧ whole.all (IsDigit ·) ∧ fraction.all (IsDigit ·) then
      let magnitude : ℚ := value whole + value fraction / 10 ^ fraction.length
      if sign = ascii '+' then some magnitude
      else if sign = ascii '-' then some (-magnitude)
      else none
    else none
  | _ => none

lemma rdropWhile_append_replicate {p : UInt8 → Bool} {b : UInt8} (hb : p b) (l : List UInt8)
    (k : ℕ) : (l ++ List.replicate k b).rdropWhile p = l.rdropWhile p := by
  induction k with
  | zero => rw [List.replicate_zero, List.append_nil]
  | succ k ih =>
    rw [List.replicate_succ', ← List.append_assoc, List.rdropWhile_concat_pos _ _ _ hb, ih]

lemma not_isDigit_blank : ¬ IsDigit (ascii ' ') := by
  unfold IsDigit
  decide

/-- A text that ends in a digit loses nothing. -/
lemma rdropWhile_blank_of_digits {l ds : List UInt8} (hne : ds ≠ [])
    (hds : ∀ b ∈ ds, IsDigit b) : (l ++ ds).rdropWhile (· = ascii ' ') = l ++ ds := by
  rw [List.rdropWhile_eq_self_iff]
  intro hl
  rw [List.getLast_append_of_ne_nil _ hne, decide_eq_true_eq]
  intro heq
  exact not_isDigit_blank (heq ▸ hds _ (List.getLast_mem hne))

/-- A text of the right form denotes what its digits say. -/
theorem readSigned_text {sign : UInt8} {whole fraction : List UInt8} (k : ℕ)
    (hsign : sign = ascii '+' ∨ sign = ascii '-') (hw : whole ≠ []) (hf : fraction ≠ [])
    (hwd : ∀ b ∈ whole, IsDigit b) (hfd : ∀ b ∈ fraction, IsDigit b) :
    readSigned (sign :: whole ++ ascii '.' :: fraction ++ List.replicate k (ascii ' ')) =
      some ((if sign = ascii '-' then -1 else 1) *
        ((value whole : ℚ) + value fraction / 10 ^ fraction.length)) := by
  have hpoint {l : List UInt8} (hl : ∀ b ∈ l, IsDigit b) : ascii '.' ∉ l :=
    fun hmem => not_isDigit_point (hl _ hmem)
  have hall {l : List UInt8} (hl : ∀ b ∈ l, IsDigit b) : l.all (IsDigit ·) = true := by
    rw [List.all_eq_true]
    exact fun b hb => decide_eq_true (hl b hb)
  have hhead : ascii '.' ∉ sign :: whole := by
    intro hmem
    rcases List.mem_cons.mp hmem with heq | hmem
    · rcases hsign with rfl | rfl <;> exact absurd heq (by decide)
    · exact hpoint hwd hmem
  have htrim : (sign :: whole ++ ascii '.' :: fraction).rdropWhile (· = ascii ' ') =
      sign :: whole ++ ascii '.' :: fraction := by
    have hsplit : sign :: whole ++ ascii '.' :: fraction =
        (sign :: whole ++ [ascii '.']) ++ fraction := by
      rw [List.append_assoc, List.singleton_append]
    rw [hsplit]
    exact rdropWhile_blank_of_digits hf hfd
  have hpieces : (sign :: whole ++ ascii '.' :: fraction).splitOn (ascii '.') =
      [sign :: whole, fraction] := by
    rw [List.splitOn_append_cons_self_of_not_mem hhead, List.splitOn_eq_singleton (hpoint hfd)]
  rw [readSigned, rdropWhile_append_replicate (by decide), htrim, hpieces]
  simp only [if_pos (show _ ∧ _ ∧ _ ∧ _ from ⟨hw, hf, hall hwd, hall hfd⟩)]
  rcases hsign with rfl | rfl
  · rw [if_pos rfl, if_neg (by decide), one_mul]
  · rw [if_neg (by decide), if_pos rfl, if_pos rfl, neg_one_mul]

end ArduinoProjects.Util
