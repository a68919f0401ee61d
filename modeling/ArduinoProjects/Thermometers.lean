import ArduinoProjects.Satsumaimo1.Sketch
import ArduinoProjects.Satsumaimo2.SketchJul05d
import ArduinoProjects.Util.SignedDecimal

/-!
# The thermometer sketches

`netudentui2` decodes the thermocouple word as the other sketches do and the chip's own
temperature with another formula; `netsudentsui` splits the magnitude of the word into
whole degrees and hundredths and prints them. `decoders_agree` says that all of them
compute the two's-complement value, whatever bits below it are set.
-/

namespace ArduinoProjects

open Util

/-! ## netudentui2 -/

namespace Netudentui2

/-- `Serial.print(n, HEX)`. -/
def hex (n : ℕ) : List UInt8 := (Nat.toDigits 16 n).map fun c => ascii c.toUpper

/-- The second value of `disp`, the temperature of the chip. -/
def chip (internal : UInt16) : ℚ :=
  if internal &&& 0x8000 = 0 then
    ((internal >>> 4).toNat : ℚ) * 0.0625
  else
    ((((0xffff : UInt16) - internal) >>> 4 + 1 : UInt16).toNat : ℚ) * (-0.0625)

/-- What is printed about a fault. -/
def causes (internal : UInt16) : List UInt8 :=
  (if internal &&& 0x0004 ≠ 0 then text "Short to Vcc, " else []) ++
    (if internal &&& 0x0002 ≠ 0 then text "Short to GND, " else []) ++
    (if internal &&& 0x0001 ≠ 0 then text "Open Circuit, " else [])

/-- What one pass prints, and the values `disp` takes if there is no fault. -/
structure Pass where
  serial : List UInt8
  disp : Option (ℚ × ℚ)

/-- `loop()`, with the reply of the sensor. -/
def loop (r : SpiReply) : Pass :=
  if r.fault then
    { serial := text "ERROR: " ++ causes r.internal ++ text "\n" ++ crlf
      disp := none }
  else
    let disp := Thermocouple.decode r.thermocouple
    { serial := hex r.thermocouple.toNat ++ text " : " ++ printFloat disp 2 ++ text " // " ++
        text "\n"
      disp := some (disp, chip r.internal) }

/-- The signed number of sixteenths of a degree in the top 12 bits of a word. -/
def sixteenths (internal : UInt16) : ℤ := (internal.toBitVec.extractLsb' 4 12).toInt

lemma sixteenths_eq (w : UInt16) :
    sixteenths w =
      if w.toNat < 0x8000 then ((w.toNat / 16 : ℕ) : ℤ)
      else ((w.toNat / 16 : ℕ) : ℤ) - 0x1000 := by
  have hw := w.toNat_lt
  have hnat : (w.toBitVec.extractLsb' 4 12).toNat = w.toNat / 16 := by
    rw [BitVec.extractLsb'_toNat, Nat.shiftRight_eq_div_pow, UInt16.toNat_toBitVec]
    omega
  rw [sixteenths, BitVec.toInt_eq_toNat_cond, hnat]
  split_ifs <;> push_cast <;> omega

lemma toNat_shiftRight_four (w : UInt16) : (w >>> 4).toNat = w.toNat / 16 := by
  rw [UInt16.toNat_shiftRight]
  show w.toNat >>> 4 = _
  rw [Nat.shiftRight_eq_div_pow]

/-- Complementing before the shift rounds the low bits away. -/
lemma chip_eq (w : UInt16) : chip w = sixteenths w / 16 := by
  have hw := w.toNat_lt
  rw [sixteenths_eq]
  unfold chip
  rcases Nat.lt_or_ge w.toNat 0x8000 with h | h
  · rw [if_pos ((Thermocouple.sign_bit_eq_zero_iff w).mpr h), if_pos h, toNat_shiftRight_four,
      Int.cast_natCast]
    norm_num
    ring
  · have hneg : (((0xffff : UInt16) - w) >>> 4 + 1 : UInt16).toNat = 0x1000 - w.toNat / 16 := by
      rw [UInt16.toNat_add, toNat_shiftRight_four, UInt16.toNat_sub]
      simp only [UInt16.reduceToNat]
      omega
    rw [if_neg (fun h0 => absurd ((Thermocouple.sign_bit_eq_zero_iff w).mp h0) (by omega)),
      if_neg (by omega), hneg, Nat.cast_sub (by omega), Int.cast_sub, Int.cast_natCast]
    norm_num
    ring

end Netudentui2

/-! ## netsudentsui -/

namespace Netsudentsui

/-- `sprintf` with `"%d.%-2d"` behind the sign, for a magnitude in quarter degrees. -/
def format (sign : UInt8) (val : UInt16) : List UInt8 :=
  let vali := val >>> 2
  let vals := (val.toUInt8 &&& 0x03) * 25
  sign :: decimal vali.toNat ++ [ascii '.'] ++ (decimal vals.toNat).rightpad 2 (ascii ' ')

/-- What `getTemp(spival16, str)` stores in `str`, without its NUL. -/
def getTemp (spival16 : UInt16) : List UInt8 :=
  let val := spival16 >>> 2
  if val &&& 0x2000 ≠ 0 then
    let val := ~~~val + 1
    let val := val &&& 0x3FFF
    format (ascii '-') val
  else
    format (ascii '+') val

/-- The sign test reads the top bit of the word. -/
lemma sign_bit_ne_zero_iff (w : UInt16) : (w >>> 2) &&& 0x2000 ≠ 0 ↔ 0x8000 ≤ w.toNat := by
  have hw := w.toNat_lt
  have hand : ((w >>> 2) &&& 0x2000).toNat = ((w.toNat / 4).testBit 13).toNat * 2 ^ 13 := by
    rw [UInt16.toNat_and, Thermocouple.toNat_shiftRight_two, ← Nat.and_two_pow]
    rfl
  rw [Ne, ← UInt16.toNat_inj, hand, Nat.testBit_eq_decide_div_mod_eq]
  rcases Nat.lt_or_ge w.toNat 0x8000 with h | h
  · have hbit : w.toNat / 4 / 2 ^ 13 % 2 = 0 := by omega
    rw [hbit]
    exact iff_of_false (fun hne => hne rfl) (by omega)
  · have hbit : w.toNat / 4 / 2 ^ 13 % 2 = 1 := by omega
    rw [hbit]
    exact iff_of_true (by decide) h

/-- Complement, increment and mask give the magnitude of a negative word. -/
lemma toNat_magnitude {w : UInt16} (h : 0x8000 ≤ w.toNat) :
    ((~~~(w >>> 2) + 1) &&& 0x3FFF : UInt16).toNat = 0x4000 - w.toNat / 4 := by
  have hw := w.toNat_lt
  have hmask (n : ℕ) : n &&& 0x3FFF = n % 0x4000 := Nat.and_two_pow_sub_one_eq_mod n 14
  rw [UInt16.toNat_and, UInt16.toNat_add, UInt16.toNat_not, Thermocouple.toNat_shiftRight_two]
  simp only [UInt16.reduceToNat, UInt16.size]
  rw [hmask]
  omega

lemma toNat_hundredths (val : UInt16) :
    ((val.toUInt8 &&& 0x03) * 25).toNat = val.toNat % 4 * 25 := by
  have hmask (n : ℕ) : n &&& 3 = n % 4 := Nat.and_two_pow_sub_one_eq_mod n 2
  rw [UInt8.toNat_mul, UInt8.toNat_and, UInt16.toNat_toUInt8]
  simp only [UInt8.reduceToNat]
  rw [hmask, Nat.mod_mod_of_dvd _ (by norm_num)]
  omega

/-- The hundredths are two digits, or one and a blank. -/
lemma rightpad_hundredths {k : ℕ} (h : k < 4) :
    ∃ j, (decimal (k * 25)).rightpad 2 (ascii ' ') = decimal (k * 25) ++
      List.replicate j (ascii ' ') ∧ (decimal (k * 25)).length + j = 2 ∧
      (value (decimal (k * 25)) : ℚ) / 10 ^ (decimal (k * 25)).length = k / 4 := by
  interval_cases k
  · exact ⟨1, by decide, by decide, by norm_num [value_decimal]⟩
  · exact ⟨0, by decide, by decide, by decide +kernel⟩
  · exact ⟨0, by decide, by decide, by decide +kernel⟩
  · exact ⟨0, by decide, by decide, by decide +kernel⟩

/-- The text denotes the magnitude it was made from, and is short. -/
lemma readSigned_format {sign : UInt8} (hsign : sign = ascii '+' ∨ sign = ascii '-')
    (val : UInt16) :
    readSigned (format sign val) =
      some ((if sign = ascii '-' then -1 else 1) * ((val.toNat : ℚ) / 4)) ∧
      (val.toNat ≤ 0x2000 → (format sign val).length ≤ 8) := by
  obtain ⟨j, hpad, hlen, hval⟩ := rightpad_hundredths (Nat.mod_lt val.toNat (by norm_num : 4 > 0))
  have hformat : format sign val = sign :: decimal (val.toNat / 4) ++
      ascii '.' :: decimal (val.toNat % 4 * 25) ++ List.replicate j (ascii ' ') := by
    rw [format, toNat_hundredths, Thermocouple.toNat_shiftRight_two, hpad]
    simp only [List.append_assoc, List.cons_append, List.nil_append]
  have hsplit : (val.toNat : ℚ) = 4 * (val.toNat / 4 : ℕ) + (val.toNat % 4 : ℕ) := by
    exact_mod_cast (Nat.div_add_mod val.toNat 4).symm
  constructor
  · rw [hformat, readSigned_text j hsign (decimal_ne_nil _) (decimal_ne_nil _)
      (fun _ => isDigit_of_mem_decimal) (fun _ => isDigit_of_mem_decimal), hval, value_decimal,
      hsplit]
    congr 2
    ring
  · intro hle
    have hwhole : (decimal (val.toNat / 4)).length ≤ 4 :=
      (length_decimal_le_iff (by norm_num)).mpr (by omega)
    rw [hformat]
    simp only [List.length_append, List.length_cons, List.length_replicate]
    omega

/-- The text of every word denotes its quarter degrees and leaves room in `strBuf`. -/
lemma readSigned_getTemp (w : UInt16) :
    readSigned (getTemp w) = some ((Thermocouple.quarters w : ℚ) / 4) ∧
      (getTemp w).length + 1 ≤ 16 := by
  have hw := w.toNat_lt
  rw [Thermocouple.quarters_eq]
  unfold getTemp
  rcases Nat.lt_or_ge w.toNat 0x8000 with h | h
  · obtain ⟨hread, hlen⟩ := readSigned_format (Or.inl rfl) (w >>> 2)
    rw [Thermocouple.toNat_shiftRight_two] at hread hlen
    simp only [if_neg (fun hne => absurd ((sign_bit_ne_zero_iff w).mp hne) (by omega)), if_pos h]
    refine ⟨?_, by have := hlen (by omega); omega⟩
    rw [hread, if_neg (by decide), one_mul, Int.cast_natCast]
  · obtain ⟨hread, hlen⟩ := readSigned_format (Or.inr rfl) ((~~~(w >>> 2) + 1) &&& 0x3FFF)
    rw [toNat_magnitude h] at hread hlen
    simp only [if_pos ((sign_bit_ne_zero_iff w).mpr h), if_neg (show ¬ w.toNat < 0x8000 by omega)]
    refine ⟨?_, by have := hlen (by omega); omega⟩
    rw [hread, if_pos rfl, Nat.cast_sub (by omega), Int.cast_sub, Int.cast_natCast]
    congr 1
    norm_num
    ring

end Netsudentsui

/-! ## All decoders -/

/-- For a response of four bytes without a fault, the temperature that each sketch computes is
the signed value of the top 14 bits of the word that the first two bytes make, the chip's is
that of the top 12 bits of the other two, and the text of `getTemp` says the same as the
temperatures. -/
theorem decoders_agree (r : SpiReply)
    (h : (256 * r.thermocoupleHigh.toNat + r.thermocoupleLow.toNat) % 2 = 0) :
    let first := UInt16.ofNat (256 * r.thermocoupleHigh.toNat + r.thermocoupleLow.toNat)
    let second := UInt16.ofNat (256 * r.internalHigh.toNat + r.internalLow.toNat)
    (∀ (s : Satsumaimo1.State) (Second : UInt8), Second % 2 = 1 →
      (Satsumaimo1.measure s Second r).suion * 4 = Thermocouple.quarters first) ∧
    (∀ s : Satsumaimo2.SketchJul05d.State, s.byou.tmod 2 = 1 →
      (s.sample r).Hanoura * 4 = Thermocouple.quarters first) ∧
    (∃ disp chip, (Netudentui2.loop r).disp = some (disp, chip) ∧
      disp * 4 = Thermocouple.quarters first ∧
      chip * 16 = Netudentui2.sixteenths second) ∧
    (∃ v, readSigned (Netsudentsui.getTemp r.thermocouple) = some v ∧
      v * 4 = Thermocouple.quarters first) ∧
    (Netsudentsui.getTemp r.thermocouple).length + 1 ≤ 16 := by
  intro first second
  have hfirst : r.thermocouple = first := r.thermocouple_eq
  have hsecond : r.internal = second := r.internal_eq
  have h : ¬ r.fault := r.not_fault_iff.mpr h
  rw [← hfirst, ← hsecond]
  have hdecode : Thermocouple.decode r.thermocouple * 4 =
      Thermocouple.quarters r.thermocouple := by
    rw [Thermocouple.decode_eq, div_mul_cancel₀ _ (by norm_num)]
  obtain ⟨hread, hlen⟩ := Netsudentsui.readSigned_getTemp r.thermocouple
  refine ⟨fun s Second hodd => ?_, fun s hodd => ?_, ?_, ?_, hlen⟩
  · rw [Satsumaimo1.measure_suion, if_pos ⟨hodd, h⟩, hdecode]
  · rw [Satsumaimo2.SketchJul05d.State.sample, if_pos hodd]
    show Thermocouple.sample s.Hanoura r * 4 = _
    rw [Thermocouple.sample, if_neg h, hdecode]
  · refine ⟨Thermocouple.decode r.thermocouple, Netudentui2.chip r.internal, ?_, hdecode, ?_⟩
    · rw [Netudentui2.loop, if_neg h]
    · rw [Netudentui2.chip_eq, div_mul_cancel₀ _ (by norm_num)]
  · exact ⟨_, hread, div_mul_cancel₀ _ (by norm_num)⟩

/-- At a quarter of a degree below zero. -/
theorem decoders_agree_below_zero :
    ∃ v, readSigned (Netsudentsui.getTemp
        (SpiReply.thermocouple ⟨0xFF, 0xFC, 0xE7, 0x0F⟩)) = some v ∧
      v * 4 = Thermocouple.quarters (UInt16.ofNat (256 * 0xFF + 0xFC)) :=
  (decoders_agree ⟨0xFF, 0xFC, 0xE7, 0x0F⟩ (by decide)).2.2.2.1

end ArduinoProjects
