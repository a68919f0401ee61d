import ArduinoProjects.Core
import Mathlib.Data.Nat.Bitwise
import Mathlib.Tactic.Ring

/-!
# The thermocouple converter

Every sketch reads the same four bytes over SPI and decodes the first word the same way:
bit 0 is the fault flag, the top 14 bits are a two's-complement number of quarter
degrees. `SpiReply.thermocouple` and `decode` are the sketches' arithmetic on a 16-bit
`unsigned int`; `SpiReply.word` and `quarters` are what the bytes and the word mean;
`thermocouple_eq` and `decode_eq` connect them.
-/

namespace ArduinoProjects

/-- The four bytes of one response, in the order `SPI.transfer` returns them. -/
structure SpiReply where
  thermocoupleHigh : UInt8
  thermocoupleLow : UInt8
  internalHigh : UInt8
  internalLow : UInt8
deriving DecidableEq

namespace SpiReply

/-- `thermocouple = transfer() << 8; thermocouple |= transfer()`. -/
def thermocouple (r : SpiReply) : UInt16 :=
  r.thermocoupleHigh.toUInt16 <<< 8 ||| r.thermocoupleLow.toUInt16

/-- `internal = transfer() << 8; internal |= transfer()`. -/
def internal (r : SpiReply) : UInt16 :=
  r.internalHigh.toUInt16 <<< 8 ||| r.internalLow.toUInt16

/-- The fault bit. -/
def fault (r : SpiReply) : Prop := r.thermocouple &&& 0x0001 ≠ 0

instance (r : SpiReply) : Decidable r.fault := inferInstanceAs (Decidable (_ ≠ _))

/-- The number that the first two bytes make, the first one in front. -/
def word (r : SpiReply) : ℕ := 256 * r.thermocoupleHigh.toNat + r.thermocoupleLow.toNat

/-- The number that the last two bytes make. -/
def internalWord (r : SpiReply) : ℕ := 256 * r.internalHigh.toNat + r.internalLow.toNat

/-- A byte shifted up and a byte or-ed to it are the digits of a number to the base 256. -/
lemma shift_or (high low : UInt8) :
    high.toUInt16 <<< 8 ||| low.toUInt16 = UInt16.ofNat (256 * high.toNat + low.toNat) := by
  have hhigh := high.toNat_lt
  have hlow := low.toNat_lt
  have hshift : (high.toUInt16 <<< 8).toNat = high.toNat <<< 8 := by
    rw [UInt16.toNat_shiftLeft, UInt8.toNat_toUInt16, Nat.mod_eq_of_lt]
    · rfl
    · show high.toNat <<< 8 < _
      rw [Nat.shiftLeft_eq]
      omega
  rw [← UInt16.toNat_inj, UInt16.toNat_or, hshift, UInt8.toNat_toUInt16,
    ← Nat.shiftLeft_add_eq_or_of_lt hlow, UInt16.toNat_ofNat', Nat.shiftLeft_eq]
  omega

/-- The sketches assemble the word that the bytes make. -/
lemma thermocouple_eq (r : SpiReply) : r.thermocouple = UInt16.ofNat r.word := shift_or _ _

/-- The second word likewise. -/
lemma internal_eq (r : SpiReply) : r.internal = UInt16.ofNat r.internalWord := shift_or _ _

/-- The fault flag is the lowest bit of the word. -/
lemma fault_iff (r : SpiReply) : r.fault ↔ r.word % 2 = 1 := by
  have hhigh := r.thermocoupleHigh.toNat_lt
  have hlow := r.thermocoupleLow.toNat_lt
  have hand : (r.thermocouple &&& 0x0001).toNat = r.word % 2 := by
    rw [UInt16.toNat_and, thermocouple_eq, UInt16.toNat_ofNat', UInt16.toNat_one,
      Nat.and_one_is_mod, word]
    omega
  rw [fault, ne_eq, ← UInt16.toNat_inj, hand, UInt16.toNat_zero]
  omega

/-- A response without the fault bit. -/
lemma not_fault_iff (r : SpiReply) : ¬ r.fault ↔ r.word % 2 = 0 := by
  rw [fault_iff]
  omega

end SpiReply

namespace Thermocouple

/-- The temperature of a fault-free word, in the sketches' unsigned arithmetic. -/
def decode (thermocouple : UInt16) : ℚ :=
  if thermocouple &&& 0x8000 = 0 then
    ((thermocouple >>> 2).toNat : ℚ) * 0.25
  else
    (((0x3fff : UInt16) - (thermocouple >>> 2 : UInt16) + 1).toNat : ℚ) * (-0.25)

/-- The variable a response is read into keeps its value on a fault. -/
def sample (value : ℚ) (r : SpiReply) : ℚ :=
  if r.fault then value else decode r.thermocouple

/-- The signed number of quarter degrees in the top 14 bits of a word. -/
def quarters (thermocouple : UInt16) : ℤ := (thermocouple.toBitVec.extractLsb' 2 14).toInt

/-- The sign test reads the top bit. -/
lemma sign_bit_eq_zero_iff (w : UInt16) : w &&& 0x8000 = 0 ↔ w.toNat < 0x8000 := by
  have hw := w.toNat_lt
  have hand : (w &&& 0x8000).toNat = (w.toNat.testBit 15).toNat * 2 ^ 15 := by
    rw [UInt16.toNat_and, ← Nat.and_two_pow]
    rfl
  rw [← UInt16.toNat_inj, hand, Nat.testBit_eq_decide_div_mod_eq]
  rcases Nat.lt_or_ge w.toNat 0x8000 with h | h
  · have hbit : w.toNat / 2 ^ 15 % 2 = 0 := by omega
    rw [hbit]
    exact iff_of_true rfl h
  · have hbit : w.toNat / 2 ^ 15 % 2 = 1 := by omega
    rw [hbit]
    exact iff_of_false (by decide) (by omega)

lemma toNat_shiftRight_two (w : UInt16) : (w >>> 2).toNat = w.toNat / 4 := by
  rw [UInt16.toNat_shiftRight]
  show w.toNat >>> 2 = _
  rw [Nat.shiftRight_eq_div_pow]

lemma quarters_eq (w : UInt16) :
    quarters w =
      if w.toNat < 0x8000 then ((w.toNat / 4 : ℕ) : ℤ)
      else ((w.toNat / 4 : ℕ) : ℤ) - 0x4000 := by
  have hw := w.toNat_lt
  have hnat : (w.toBitVec.extractLsb' 2 14).toNat = w.toNat / 4 := by
    rw [BitVec.extractLsb'_toNat, Nat.shiftRight_eq_div_pow, UInt16.toNat_toBitVec]
    omega
  rw [quarters, BitVec.toInt_eq_toNat_cond, hnat]
  split_ifs <;> push_cast <;> omega

/-- The unsigned arithmetic computes the signed value exactly. -/
theorem decode_eq (w : UInt16) : decode w = quarters w / 4 := by
  have hw := w.toNat_lt
  rw [quarters_eq]
  unfold decode
  rcases Nat.lt_or_ge w.toNat 0x8000 with h | h
  · -- both sides are the shifted word
    rw [if_pos ((sign_bit_eq_zero_iff w).mpr h), if_pos h, toNat_shiftRight_two,
      Int.cast_natCast]
    ring
  · -- the complement does not wrap: the shifted word has 14 bits, the top one set
    have hneg : ((0x3fff : UInt16) - (w >>> 2 : UInt16) + 1).toNat = 0x4000 - w.toNat / 4 := by
      rw [UInt16.toNat_add, UInt16.toNat_sub, toNat_shiftRight_two]
      simp only [UInt16.reduceToNat]
      omega
    rw [if_neg (fun h0 => absurd ((sign_bit_eq_zero_iff w).mp h0) (by omega)), if_neg (by omega),
      hneg, Nat.cast_sub (by omega), Int.cast_sub, Int.cast_natCast]
    norm_num
    ring

end Thermocouple
end ArduinoProjects
