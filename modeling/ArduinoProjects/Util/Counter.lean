import Mathlib.Data.Nat.ModEq
import Mathlib.Tactic.Ring

/-!
# Counters that wrap around

A free-running counter shows the true count modulo its range. The difference of two
readings is the true difference as long as that is smaller than the range
(`toNat_ofNat_sub`), and half a range still shows which one is the later
(`ofNat_sub_nonneg_iff`), whether or not the counter has wrapped around in between.
-/

namespace ArduinoProjects.Util

/-- The wrapped difference of two counts less than a range apart. -/
lemma wrapped_sub {a b m : ℕ} (hab : a ≤ b) (h : b - a < m) :
    (m - a % m + b % m) % m = b - a := by
  have ha : a % m ≤ m := (Nat.mod_lt a (by omega)).le
  have hmod : m - a % m + b % m ≡ b - a [MOD m] := by
    apply Nat.ModEq.add_left_cancel' (a % m)
    have hleft : a % m + (m - a % m + b % m) = m + b % m := by omega
    rw [hleft]
    calc m + b % m ≡ b % m [MOD m] := Nat.add_modEq_left
      _ ≡ b [MOD m] := Nat.mod_modEq b m
      _ = a + (b - a) := (Nat.add_sub_cancel' hab).symm
      _ ≡ a % m + (b - a) [MOD m] := ((Nat.mod_modEq a m).symm).add_right _
  rw [hmod, Nat.mod_eq_of_lt h]

/-- The difference of two readings of a 32-bit counter. -/
theorem toNat_ofNat_sub {a b : ℕ} (hab : a ≤ b) (h : b - a < 2 ^ 32) :
    (UInt32.ofNat b - UInt32.ofNat a).toNat = b - a := by
  rw [UInt32.toNat_sub, UInt32.toNat_ofNat', UInt32.toNat_ofNat']
  exact wrapped_sub hab h

lemma toInt32_nonneg_iff (x : UInt32) : x.toInt32 ≥ 0 ↔ x.toNat < 2 ^ 31 := by
  have hlt := x.toNat_lt
  rw [ge_iff_le, Int32.le_iff_toInt_le, ← Int32.toInt_toBitVec x.toInt32]
  show (0 : ℤ) ≤ x.toBitVec.toInt ↔ _
  rw [BitVec.toInt_eq_toNat_cond]
  show (0 : ℤ) ≤ (if 2 * x.toNat < 2 ^ 32 then (x.toNat : ℤ) else (x.toNat : ℤ) - (2 ^ 32 : ℕ)) ↔ _
  split <;> omega

/-- The sign of the difference of two readings tells which one is the later, when they are less
than half a range apart. -/
theorem ofNat_sub_nonneg_iff {a b : ℕ} (ha : a ≤ b + 2 ^ 31) (hb : b < a + 2 ^ 31) :
    (UInt32.ofNat b - UInt32.ofNat a).toInt32 ≥ 0 ↔ a ≤ b := by
  rw [toInt32_nonneg_iff, UInt32.toNat_sub, UInt32.toNat_ofNat', UInt32.toNat_ofNat']
  omega

end ArduinoProjects.Util
