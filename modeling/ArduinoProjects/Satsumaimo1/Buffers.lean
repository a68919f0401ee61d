import ArduinoProjects.Satsumaimo1.Frame
import ArduinoProjects.Satsumaimo1.Valves

/-!
# The text buffers of the sender

Every text of a frame is written into five bytes, the last of them for the NUL, and the
width that `dtostrf` is given is only a minimum. The times and the soil reading always
fit. A temperature fits from -9.9 to 99.9 degrees (`length_dtostrf_tenths_le_iff`), which
none of the three is confined to; `buffers_hold_iff` puts the bounds on the readings.
-/

namespace ArduinoProjects.Satsumaimo1

open Util

/-- The texts of a frame that `dtostrf` writes. -/
def Fields.texts (f : Fields) : List (List UInt8) :=
  [f.Temp, f.Suibun, f.Suion, f.Nikkou, f.YEAR, f.MON, f.DAY, f.HOUR, f.Min, f.Sec]

/-- Each text and its NUL fit in `char [5]`. -/
def Fields.Fit (f : Fields) : Prop := ∀ l ∈ f.texts, l.length + 1 ≤ 5

instance (f : Fields) : Decidable f.Fit := inferInstanceAs (Decidable (∀ l ∈ _, _))

variable (A : Arduino)

/-! ## Numbers in columns -/

lemma length_column_le {w n k : ℕ} (hk : 0 < k) (hw : w ≤ k) (h : n < 10 ^ k) :
    (column w n).length ≤ k := by
  rw [column, List.length_leftpad]
  exact max_le hw ((length_decimal_le_iff hk).mpr h)

/-- Whatever is in the clock's bytes, its texts have at most four characters. -/
lemma length_byte_le (b : UInt8) : (A.dtostrf b.toNat 2 0).length ≤ 4 := by
  have hb := b.toNat_lt
  rw [Arduino.dtostrf_natCast]
  exact length_column_le (by norm_num) (by norm_num) (by omega)

lemma length_year_le (Y : UInt8) : (A.dtostrf (tmYearToCalendar Y) 4 0).length ≤ 4 := by
  have hY := Y.toNat_lt
  rw [Arduino.dtostrf_natCast]
  apply length_column_le (by norm_num) le_rfl
  unfold tmYearToCalendar
  omega

lemma length_soil_le {suibun : ℕ} (h : suibun ≤ 1023) : (A.dtostrf suibun 3 0).length ≤ 4 := by
  rw [Arduino.dtostrf_natCast]
  exact length_column_le (by norm_num) (by norm_num) (by omega)

/-! ## Temperatures -/

/-- The temperatures that `dtostrf(v, 2, 1, s)` writes in at most four characters. -/
def Short (v : ℚ) : Prop := 0 ≤ v ∧ A.tenths v ≤ 999 ∨ v < 0 ∧ A.tenths v ≤ 99

lemma length_whole_le_iff (v : ℚ) {k : ℕ} (hk : 0 < k) :
    (decimal (A.tenths v / 10)).length ≤ k ↔ A.tenths v / 10 < 10 ^ k :=
  length_decimal_le_iff hk

/-- A point, a tenth, a sign if there is one, and the whole degrees. -/
lemma length_dtostrf_tenths (v : ℚ) :
    (A.dtostrf v 2 1).length =
      (if v < 0 then 3 else 2) + (decimal (A.tenths v / 10)).length := by
  rw [Arduino.dtostrf_tenths, List.length_append, length_fixed_one]
  split
  · rw [List.length_singleton]
    omega
  · rw [List.length_nil]
    omega

lemma length_dtostrf_tenths_le_iff (v : ℚ) : (A.dtostrf v 2 1).length ≤ 4 ↔ Short A v := by
  have h1 := length_whole_le_iff A v Nat.one_pos
  have h2 := length_whole_le_iff A v Nat.two_pos
  rw [length_dtostrf_tenths, Short]
  rcases lt_or_ge v 0 with hv | hv
  · have hneg : ¬ 0 ≤ v := not_le.mpr hv
    simp only [hv, hneg, if_true, false_and, true_and, false_or]
    omega
  · have hpos : ¬ v < 0 := not_lt.mpr hv
    simp only [hv, hpos, if_false, false_and, true_and, or_false]
    omega

variable {A}

/-- Temperatures of less than ten degrees, with the room that rounding needs. -/
lemma tenths_lt_hundred {v : ℚ} (h : -99.5 < v * 10) (h' : v * 10 < 99.5) : A.tenths v < 100 :=
  A.tenths_lt (abs_lt.mpr ⟨by push_cast; linarith, by push_cast; linarith⟩)

lemma short_of_lt {v : ℚ} (h : -99.5 < v * 10) (h' : v * 10 < 999.5) : Short A v := by
  rcases lt_or_ge v 0 with hv | hv
  · have hlt : A.tenths v < 100 := tenths_lt_hundred h (by linarith)
    exact Or.inr ⟨hv, Nat.le_of_lt_succ hlt⟩
  · have hlt : A.tenths v < 1000 :=
      A.tenths_lt (abs_lt.mpr ⟨by push_cast; linarith, by push_cast; linarith⟩)
    exact Or.inl ⟨hv, Nat.le_of_lt_succ hlt⟩

/-- Too cold: -10.0 and less. -/
lemma not_short_of_cold {v : ℚ} (h : v * 10 < -99.5) : ¬ Short A v := by
  have hle : 100 ≤ A.tenths v := A.le_tenths (lt_abs.mpr (Or.inr (by push_cast; linarith)))
  intro hs
  rcases hs with ⟨hpos, -⟩ | ⟨-, hhi⟩
  · linarith
  · omega

/-- Too hot: 100.0 and more. -/
lemma not_short_of_hot {v : ℚ} (h : 999.5 < v * 10) : ¬ Short A v := by
  have hle : 1000 ≤ A.tenths v := A.le_tenths (lt_abs.mpr (Or.inl (by push_cast; linarith)))
  intro hs
  rcases hs with ⟨-, hhi⟩ | ⟨hneg, -⟩
  · omega
  · linarith

variable (A)

/-- Which thermocouple words fit. -/
lemma short_quarters_iff (q : ℤ) : Short A ((q : ℚ) / 4) ↔ -39 ≤ q ∧ q ≤ 399 := by
  rcases lt_or_ge q (-39) with h1 | h1
  · have hq : (q : ℚ) ≤ -40 := by exact_mod_cast show q ≤ -40 by omega
    exact iff_of_false (not_short_of_cold (by norm_num; linarith)) (by omega)
  rcases lt_or_ge q 400 with h2 | h2
  · have hlo : (-39 : ℚ) ≤ q := by exact_mod_cast h1
    have hhi : (q : ℚ) ≤ 399 := by exact_mod_cast show q ≤ 399 by omega
    exact iff_of_true (short_of_lt (by norm_num; linarith) (by norm_num; linarith)) (by omega)
  · have hq : (400 : ℚ) ≤ q := by exact_mod_cast h2
    exact iff_of_false (not_short_of_hot (by norm_num; linarith)) (by omega)

/-- The curve of the non-contact thermometer rises over the whole range of the converter. -/
lemma nikkou_lt_nikkou {x y : ℕ} (h : x < y) (hy : y ≤ 1023) : nikkou x < nikkou y := by
  have hxy : (x : ℚ) < y := by exact_mod_cast h
  have hy' : (y : ℚ) ≤ 1023 := by exact_mod_cast hy
  have hfactor : nikkou y - nikkou x =
      (y - x) * (5 / 1024) * (49.898 - 3.4248 * (5 / 1024) * (x + y)) := by
    unfold nikkou volts
    ring
  have hpos : 0 < ((y : ℚ) - x) * (5 / 1024) * (49.898 - 3.4248 * (5 / 1024) * (x + y)) := by
    apply mul_pos
    · linarith
    · norm_num
      linarith
  linarith

/-- More light is never less. -/
lemma nikkou_le_nikkou {x y : ℕ} (h : x ≤ y) (hy : y ≤ 1023) : nikkou x ≤ nikkou y := by
  rcases Nat.eq_or_lt_of_le h with rfl | hlt
  · exact le_rfl
  · exact (nikkou_lt_nikkou hlt hy).le

/-- Which readings of the non-contact thermometer fit. -/
lemma short_nikkou_iff {okujyou : ℕ} (h : okujyou ≤ 1023) :
    Short A (nikkou okujyou) ↔ 243 ≤ okujyou := by
  have h242 : nikkou 242 * 10 < -99.5 := by norm_num [nikkou, volts]
  have h243 : -99.5 < nikkou 243 * 10 := by norm_num [nikkou, volts]
  have h1023 : nikkou 1023 * 10 < 999.5 := by norm_num [nikkou, volts]
  rcases Nat.lt_or_ge okujyou 243 with h1 | h1
  · have hhi := nikkou_le_nikkou (Nat.le_of_lt_succ h1) (by norm_num)
    exact iff_of_false (not_short_of_cold (by linarith)) (by omega)
  · have hlo := nikkou_le_nikkou h1 h
    have hhi := nikkou_le_nikkou h (by norm_num)
    exact iff_of_true (short_of_lt (by linarith) (by linarith)) h1

/-! ## Runs -/

variable (inp : ℕ → Pass)

/-- The texts pass `n` writes. -/
def fieldsAt (n : ℕ) : Fields :=
  frame A (inp n).tm (A.airTemp (inp n).kion) (inp n).suibun (after A inp n).suion
    (nikkou (inp n).okujyou) (after A inp n).S1

/-- The times and the soil reading fit, so the temperatures decide. -/
lemma fit_fieldsAt_iff {n : ℕ} (h : (inp n).suibun ≤ 1023) :
    (fieldsAt A inp n).Fit ↔
      Short A (A.airTemp (inp n).kion) ∧ Short A (heldSuion inp n) ∧
        Short A (nikkou (inp n).okujyou) := by
  have hsoil := length_soil_le A h
  have hyear := length_year_le A (inp n).tm.Year
  have hbyte := length_byte_le A
  have hsize (k : ℕ) : k + 1 ≤ 5 ↔ k ≤ 4 := Nat.succ_le_succ_iff
  simp only [Fields.Fit, Fields.texts, fieldsAt, frame, fieldsOf, after_suion,
    List.forall_mem_cons, hsize, length_dtostrf_tenths_le_iff, hsoil, hyear, hbyte, true_and]
  constructor
  · intro hfit
    exact ⟨hfit.1, hfit.2.1, hfit.2.2.1⟩
  · intro hshort
    exact ⟨hshort.1, hshort.2.1, hshort.2.2, fun _ hl => absurd hl List.not_mem_nil⟩

/-- The water temperature fits in every pass iff every reading does. -/
lemma short_heldSuion_iff :
    (∀ n, Short A (heldSuion inp n)) ↔ ∀ n, Sampled inp n → Short A (reading inp n) :=
  forall_held_iff (Short A) (short_of_lt (by norm_num) (by norm_num))

/-- In a run all texts fit in their buffers iff the air is at -9.9 to 99.9 degrees, every
thermocouple reading is, too, and the non-contact thermometer never reads below 243. -/
theorem buffers_hold_iff (h : ∀ n, (inp n).suibun ≤ 1023 ∧ (inp n).okujyou ≤ 1023) :
    (∀ n, (fieldsAt A inp n).Fit) ↔
      (∀ n, 0 ≤ A.airTemp (inp n).kion ∧ A.tenths (A.airTemp (inp n).kion) ≤ 999 ∨
        A.airTemp (inp n).kion < 0 ∧ A.tenths (A.airTemp (inp n).kion) ≤ 99) ∧
      (∀ n, Sampled inp n → -39 ≤ Thermocouple.quarters (UInt16.ofNat (inp n).spi.word) ∧
        Thermocouple.quarters (UInt16.ofNat (inp n).spi.word) ≤ 399) ∧
      ∀ n, 243 ≤ (inp n).okujyou := by
  have hwater := short_heldSuion_iff A inp
  simp only [reading, short_quarters_iff] at hwater
  simp only [fit_fieldsAt_iff A inp (h _).1, forall_and, hwater, short_nikkou_iff A (h _).2]
  rfl

/-- Passes at 5:00:01 in dry soil with the water at 25 degrees and the non-contact
thermometer at a given reading. -/
def sunAt (okujyou : ℕ) (_ : ℕ) : Pass := { passAt 0x05 0x01 0x01 0x90 with okujyou := okujyou }

lemma sunAt_le {okujyou : ℕ} (h : okujyou ≤ 1023) (n : ℕ) :
    (sunAt okujyou n).suibun ≤ 1023 ∧ (sunAt okujyou n).okujyou ≤ 1023 := by
  show 300 ≤ 1023 ∧ okujyou ≤ 1023
  exact ⟨by norm_num, h⟩

/-- The buffers hold at a reading of 512. -/
theorem buffers_hold_at_512 : (fieldsAt (.halfUp fun _ => 20) (sunAt 512) 0).Fit := by
  apply (buffers_hold_iff (.halfUp fun _ => 20) (sunAt 512) (sunAt_le (by norm_num))).mpr
  refine ⟨fun _ => Or.inl ?_, fun _ _ => ?_, fun _ => ?_⟩
  · show (0 : ℚ) ≤ 20 ∧ (Arduino.halfUp fun _ => 20).tenths 20 ≤ 999
    decide +kernel
  · show -39 ≤ Thermocouple.quarters (UInt16.ofNat (SpiReply.word ⟨0x01, 0x90, 0, 0⟩)) ∧
      Thermocouple.quarters (UInt16.ofNat (SpiReply.word ⟨0x01, 0x90, 0, 0⟩)) ≤ 399
    decide
  · show 243 ≤ 512
    norm_num

/-- At the lowest reading the sunlit temperature is `-64.2`, which takes six bytes. -/
theorem nikkou_overflows :
    ¬ ∀ (A : Arduino) (inp : ℕ → Pass),
      (∀ n, (inp n).suibun ≤ 1023 ∧ (inp n).okujyou ≤ 1023) → ∀ n, (fieldsAt A inp n).Fit := by
  intro h
  have hfit := h (.halfUp fun _ => 20) (sunAt 0) (sunAt_le (by norm_num)) 0
  revert hfit
  decide +kernel

end ArduinoProjects.Satsumaimo1
