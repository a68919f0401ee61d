import ArduinoProjects.Util.Decimal
import Mathlib.Data.Rat.Floor
import Mathlib.Tactic.Linarith
import Mathlib.Tactic.NormNum

/-!
# The Arduino core, as the sketches use it

Pin levels, `dtostrf`, and the two things about the core that the sketches depend on
and the repository does not contain: how `dtostrf` rounds, and the value of the
thermistor formula in AVR floating point (its logarithm is the C library's). Both are
fields of `Arduino`, so that every result holds for whatever the core does there.

Floating-point variables that only ever hold quarter degrees, readings of the
converter or the terms of an exactly evaluated polynomial are rationals.
-/

namespace ArduinoProjects

open Util

/-! ## Pins -/

/-- The level of a digital pin. -/
inductive Level
  | LOW
  | HIGH
deriving DecidableEq

/-- The output levels, by pin number. -/
abbrev Pins := ℕ → Level

/-- The levels after `digitalWrite(pin, level)`. -/
def digitalWrite (pins : Pins) (pin : ℕ) (level : Level) : Pins :=
  Function.update pins pin level

@[simp] lemma digitalWrite_self (pins : Pins) (pin : ℕ) (level : Level) :
    digitalWrite pins pin level pin = level := Function.update_self ..

lemma digitalWrite_of_ne (pins : Pins) {pin pin' : ℕ} (level : Level) (h : pin' ≠ pin) :
    digitalWrite pins pin level pin' = pins pin' := Function.update_of_ne h ..

/-! ## Characters -/

/-- A `char` in an arithmetic expression: AVR characters are signed. -/
def char (b : UInt8) : ℤ := b.toInt8.toInt

lemma char_inj {a b : UInt8} : char a = char b ↔ a = b := by
  rw [char, char, Int8.toInt_inj]
  constructor
  · intro h
    rw [← UInt8.toUInt8_toInt8 a, h, UInt8.toUInt8_toInt8]
  · intro h
    rw [h]

lemma char_digit {d : ℕ} (h : d < 10) : char (digit d) = 48 + d := by
  interval_cases d <;> rfl

/-- A digit as a character is even iff the digit is. -/
lemma even_char_digit_iff {d : ℕ} (h : d < 10) : Even (char (digit d)) ↔ Even d := by
  rw [char_digit h, Int.even_iff, Nat.even_iff]
  omega

/-- The bytes of a string literal. -/
def text (s : String) : List UInt8 := s.toList.map ascii

/-- What `println` puts behind its text. -/
def crlf : List UInt8 := [13, 10]

/-- The text of `print(number, digits)`: the core adds half a unit of the last digit and
cuts off the rest. Here a tie is rounded up; in the core's binary arithmetic it may fall to
either side, and no result depends on it. -/
def printFloat (number : ℚ) (digits : ℕ) : List UInt8 :=
  (if number < 0 then [ascii '-'] else []) ++
    fixed ⌊|number| * 10 ^ digits + 1 / 2⌋₊ digits

/-! ## The core's arithmetic -/

/-- What the core and its C library decide. -/
structure Arduino where
  /-- Rounding of a non-negative value to a whole number; a tie may go either way. -/
  round : ℚ → ℕ
  round_near : ∀ x, 0 ≤ x → |(round x : ℚ) - x| ≤ 1 / 2
  /-- `1 / (log(R / 10000) / B + 1 / 298.15) - 273.15` with
  `R = (1023 - kion) * 10000 / kion`, as the AVR computes it from the reading `kion`. -/
  airTemp : ℕ → ℚ

namespace Arduino

variable (A : Arduino)

@[simp] lemma round_natCast (n : ℕ) : A.round n = n := by
  have h := abs_le.mp (A.round_near n (Nat.cast_nonneg n))
  have hlt : (A.round n : ℚ) < n + 1 := by linarith [h.2]
  have hgt : (n : ℚ) < A.round n + 1 := by linarith [h.1]
  have hlt' : A.round n < n + 1 := by exact_mod_cast hlt
  have hgt' : n < A.round n + 1 := by exact_mod_cast hgt
  omega

lemma round_lt {x : ℚ} {k : ℕ} (hx : 0 ≤ x) (h : x < k - 1 / 2) : A.round x < k := by
  have hnear := (abs_le.mp (A.round_near x hx)).2
  have : (A.round x : ℚ) < k := by linarith
  exact_mod_cast this

/-- A number less than half below a whole one is rounded to at least that. -/
lemma le_round {x : ℚ} {k : ℕ} (h : (k : ℚ) - 1 / 2 < x) (hx : 0 ≤ x) : k ≤ A.round x := by
  have hnear := (abs_le.mp (A.round_near x hx)).1
  have : (k : ℚ) < A.round x + 1 := by linarith
  have : k < A.round x + 1 := by exact_mod_cast this
  omega

/-- A core that rounds ties up, with a given thermistor formula. -/
def halfUp (airTemp : ℕ → ℚ) : Arduino where
  round x := ⌊x + 1 / 2⌋₊
  round_near x hx := by
    have hpos : 0 ≤ x + 1 / 2 := by linarith
    have hle := Nat.floor_le hpos
    have hlt := Nat.lt_floor_add_one (x + 1 / 2)
    rw [abs_le]
    constructor <;> linarith
  airTemp := airTemp

/-! ## `dtostrf` -/

/-- The text `dtostrf(val, width, prec, s)` stores in `s`, without its NUL. -/
def dtostrf (val : ℚ) (width prec : ℕ) : List UInt8 :=
  ((if val < 0 then [ascii '-'] else []) ++ fixed (A.round (|val| * 10 ^ prec)) prec).leftpad
    width (ascii ' ')

/-- The magnitude of a value in tenths, as `dtostrf(val, _, 1, s)` rounds it. -/
def tenths (val : ℚ) : ℕ := A.round (|val| * 10)

lemma tenths_eq (val : ℚ) : A.tenths val = A.round |val * 10| := by
  rw [tenths, abs_mul, abs_of_pos (show (0 : ℚ) < 10 by norm_num)]

lemma tenths_lt {val : ℚ} {k : ℕ} (h : |val * 10| < k - 1 / 2) : A.tenths val < k := by
  rw [tenths_eq]
  exact A.round_lt (abs_nonneg _) h

/-- At least `k` tenths, with the room that rounding needs. -/
lemma le_tenths {val : ℚ} {k : ℕ} (h : (k : ℚ) - 1 / 2 < |val * 10|) : k ≤ A.tenths val := by
  rw [tenths_eq]
  exact A.le_round h (abs_nonneg _)

/-- A whole number is written as a blank-padded column. -/
lemma dtostrf_natCast (n width : ℕ) : A.dtostrf n width 0 = column width n := by
  have hneg : ¬ (n : ℚ) < 0 := not_lt.mpr (Nat.cast_nonneg n)
  rw [dtostrf, if_neg hneg, pow_zero, mul_one, abs_of_nonneg (Nat.cast_nonneg n),
    round_natCast, fixed_zero, List.nil_append]
  rfl

/-- With one digit after the point a width of two pads nothing. -/
lemma dtostrf_tenths (val : ℚ) :
    A.dtostrf val 2 1 = (if val < 0 then [ascii '-'] else []) ++ fixed (A.tenths val) 1 := by
  -- a digit, the point and a digit
  have hlen : 2 ≤ (fixed (A.tenths val) 1).length := by
    rw [length_fixed_one]
    omega
  rw [dtostrf, pow_one, ← tenths, List.leftpad, List.length_append,
    Nat.sub_eq_zero_of_le (by omega)]
  rfl

/-- `dtostrf(val, 2, 1, s)` writes a number of tenths. -/
lemma isTenths_dtostrf (val : ℚ) : IsTenths (A.dtostrf val 2 1) := by
  rw [dtostrf_tenths]
  split
  · exact isTenths_neg_fixed _
  · exact isTenths_fixed _

end Arduino
end ArduinoProjects
