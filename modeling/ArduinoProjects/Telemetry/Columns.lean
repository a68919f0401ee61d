import ArduinoProjects.Satsumaimo1.Buffers
import ArduinoProjects.Satsumaimo3.Sketch

/-!
# The encoder against the decoder

The sender writes texts one after the other, the logger cuts its buffer at fixed columns.
Both mean the same iff every text has the width of its column (`slots_eq_iff`). The time
always has. The soil reading has it up to three digits; a temperature has it from 10.0 to
99.9 and from -9.9 up to below zero, which `columns_iff` spells out for the sensors'
readings.
-/

namespace ArduinoProjects.Telemetry

open Util Satsumaimo1 Satsumaimo3

variable (A : Arduino)

/-! ## Temperatures of four characters -/

/-- The temperatures that `dtostrf(v, 2, 1, s)` writes in four characters. -/
def FourWide (v : ℚ) : Prop :=
  0 ≤ v ∧ 100 ≤ A.tenths v ∧ A.tenths v ≤ 999 ∨ v < 0 ∧ A.tenths v ≤ 99

lemma length_dtostrf_eq_four_iff (v : ℚ) : (A.dtostrf v 2 1).length = 4 ↔ FourWide A v := by
  have h1 := length_whole_le_iff A v Nat.one_pos
  have h2 := length_whole_le_iff A v Nat.two_pos
  have hpos := List.length_pos_of_ne_nil (decimal_ne_nil (A.tenths v / 10))
  rw [length_dtostrf_tenths, FourWide]
  rcases lt_or_ge v 0 with hv | hv
  · have hneg : ¬ 0 ≤ v := not_le.mpr hv
    simp only [hv, hneg, if_true, false_and, true_and, false_or]
    omega
  · have hpos : ¬ v < 0 := not_lt.mpr hv
    simp only [hv, hpos, if_false, false_and, true_and, or_false]
    omega

/-- Of the temperatures that fit the sender's buffers, those from 0.0 to 9.9 are shorter. -/
lemma fourWide_iff (v : ℚ) : FourWide A v ↔ Short A v ∧ (0 ≤ v → 100 ≤ A.tenths v) := by
  rw [FourWide, Short]
  rcases lt_or_ge v 0 with hv | hv
  · have hneg : ¬ 0 ≤ v := not_le.mpr hv
    simp only [hv, hneg, false_and, true_and, false_or, false_imp_iff, and_true]
  · have hpos : ¬ v < 0 := not_lt.mpr hv
    simp only [hv, hpos, false_and, true_and, or_false, true_imp_iff]
    exact and_comm

variable {A}

lemma fourWide_iff_of_neg {v : ℚ} (hv : v < 0) : FourWide A v ↔ Short A v := by
  rw [fourWide_iff]
  exact and_iff_left fun h => absurd hv (not_lt.mpr h)

lemma fourWide_iff_of_ge {v : ℚ} (h : 99.5 < v * 10) : FourWide A v ↔ Short A v := by
  have hle : 100 ≤ A.tenths v := A.le_tenths (lt_abs.mpr (Or.inl (by push_cast; linarith)))
  rw [fourWide_iff]
  exact and_iff_left fun _ => hle

/-- Too short: from 0.0 to below 10.0. -/
lemma not_fourWide_of_short {v : ℚ} (hv : 0 ≤ v) (h : v * 10 < 99.5) : ¬ FourWide A v := by
  have hlt : A.tenths v < 100 := tenths_lt_hundred (by linarith) h
  rw [fourWide_iff]
  exact fun hw => absurd (hw.2 hv) (not_le.mpr hlt)

variable (A)

/-- Which thermocouple words are written in four characters. -/
lemma fourWide_decode_iff (word : UInt16) :
    FourWide A (Thermocouple.decode word) ↔
      40 ≤ Thermocouple.quarters word ∧ Thermocouple.quarters word ≤ 399 ∨
      -39 ≤ Thermocouple.quarters word ∧ Thermocouple.quarters word ≤ -1 := by
  rw [Thermocouple.decode_eq]
  set q := Thermocouple.quarters word
  rcases lt_or_ge q 0 with h1 | h1
  · have hneg : (q : ℚ) < 0 := by exact_mod_cast h1
    rw [fourWide_iff_of_neg (by linarith), short_quarters_iff]
    omega
  rcases lt_or_ge q 40 with h2 | h2
  · have hlo : (0 : ℚ) ≤ q := by exact_mod_cast h1
    have hhi : (q : ℚ) ≤ 39 := by exact_mod_cast show q ≤ 39 by omega
    exact iff_of_false (not_fourWide_of_short (by positivity) (by norm_num; linarith)) (by omega)
  · have hlo : (40 : ℚ) ≤ q := by exact_mod_cast h2
    rw [fourWide_iff_of_ge (by norm_num; linarith), short_quarters_iff]
    omega

/-! ## The sun -/

/-- Which readings of the non-contact thermometer are written in four characters. -/
lemma fourWide_nikkou_iff {okujyou : ℕ} (h : okujyou ≤ 1023) :
    FourWide A (nikkou okujyou) ↔ 243 ≤ okujyou ∧ okujyou ≤ 292 ∨ 345 ≤ okujyou := by
  -- the curve at both sides of each bound
  have h292 : nikkou 292 < 0 := by norm_num [nikkou, volts]
  have h293 : 0 ≤ nikkou 293 := by norm_num [nikkou, volts]
  have h344 : nikkou 344 * 10 < 99.5 := by norm_num [nikkou, volts]
  have h345 : 99.5 < nikkou 345 * 10 := by norm_num [nikkou, volts]
  rcases Nat.lt_or_ge okujyou 293 with h1 | h1
  · have hhi := nikkou_le_nikkou (Nat.le_of_lt_succ h1) (by norm_num)
    rw [fourWide_iff_of_neg (by linarith), short_nikkou_iff A h]
    omega
  rcases Nat.lt_or_ge okujyou 345 with h2 | h2
  · have hlo := nikkou_le_nikkou h1 h
    have hhi := nikkou_le_nikkou (Nat.le_of_lt_succ h2) (by norm_num)
    exact iff_of_false (not_fourWide_of_short (by linarith) (by linarith)) (by omega)
  · have hlo := nikkou_le_nikkou h2 h
    rw [fourWide_iff_of_ge (by linarith), short_nikkou_iff A h]
    omega

/-! ## The slots -/

/-- The texts the sender and the relay write, under the names of the logger's slots. -/
def sentSlots (f : Fields) (hikage : List UInt8) : Slots where
  Year := f.YEAR
  Month := f.MON
  Day := f.DAY
  Hour := f.HOUR
  Min := f.Min
  Sec := f.Sec
  Kion := f.Temp
  Suibun := f.Suibun
  Suion := f.Suion
  Nikkou := f.Nikkou
  handan := [f.flag]
  hikage := hikage

/-- The time texts of a frame take 4, 2, 2, 2, 2 and 2 bytes. -/
structure TimeAligned (f : Fields) : Prop where
  YEAR : f.YEAR.length = 4
  MON : f.MON.length = 2
  DAY : f.DAY.length = 2
  HOUR : f.HOUR.length = 2
  Min : f.Min.length = 2
  Sec : f.Sec.length = 2

/-- A frame with a valid time has the time in its columns. -/
lemma timeAligned_frame {tm : tmElements_t} (h : tm.Valid) (T : ℚ) (suibun : ℕ) (suion O : ℚ)
    (flag : UInt8) : TimeAligned (frame A tm T suibun suion O flag) := by
  have hw := valid_widths h
  refine ⟨?_, ?_, ?_, ?_, ?_, ?_⟩
  · exact (congrArg _ (A.dtostrf_natCast _ _)).trans hw.year
  · exact (congrArg _ (A.dtostrf_natCast _ _)).trans hw.month
  · exact (congrArg _ (A.dtostrf_natCast _ _)).trans hw.day
  · exact (congrArg _ (A.dtostrf_natCast _ _)).trans hw.hour
  · exact (congrArg _ (A.dtostrf_natCast _ _)).trans hw.minute
  · exact (congrArg _ (A.dtostrf_natCast _ _)).trans hw.second

/-- The slots hold the texts iff the texts have the widths of the slots. -/
theorem slots_eq_iff {f : Fields} (hf : TimeAligned f) {hikage : List UInt8} {Moji : ℕ → UInt8}
    (h : Lies Moji 0 (f.send ++ hikage)) :
    slots Moji = sentSlots f hikage ↔
      f.Temp.length = 4 ∧ f.Suibun.length = 3 ∧ f.Suion.length = 4 ∧ f.Nikkou.length = 4 ∧
        hikage.length = 4 := by
  constructor
  · -- a slot has as many bytes as it cuts
    intro heq
    exact ⟨congrArg (fun s => s.Kion.length) heq.symm, congrArg (fun s => s.Suibun.length) heq.symm,
      congrArg (fun s => s.Suion.length) heq.symm, congrArg (fun s => s.Nikkou.length) heq.symm,
      congrArg (fun s => s.hikage.length) heq.symm⟩
  · intro ⟨hTemp, hSuibun, hSuion, hNikkou, hhikage⟩
    -- every text lies where the ones before it end, which is where its slot begins
    simp only [Fields.send, List.append_assoc, lies_append_iff] at h
    simp only [Lies, hf.YEAR, hf.MON, hf.DAY, hf.HOUR, hf.Min, hf.Sec, hTemp, hSuibun, hSuion,
      hNikkou, hhikage, List.length_singleton, Nat.reduceAdd] at h
    obtain ⟨hY, hM, hD, hH, hm, hs, hT, hSb, hSn, hN, hflag, hhik⟩ := h
    rw [slots_eq, sentSlots, hY, hM, hD, hH, hm, hs, hT, hSb, hSn, hN, hflag, hhik]

/-- What the logger cuts out of a frame and the relay's text are the texts that were
written iff each of the five measurements is in the range its column can hold. -/
theorem columns_iff {tm : tmElements_t} (htm : tm.Valid) (T : ℚ) {suibun : ℕ}
    (hsuibun : suibun ≤ 1023) (word : UInt16) {okujyou : ℕ} (hokujyou : okujyou ≤ 1023)
    (flag : UInt8) (shade : UInt16) {Moji : ℕ → UInt8}
    (hMoji : Lies Moji 0
      ((frame A tm T suibun (Thermocouple.decode word) (nikkou okujyou) flag).send ++
        A.dtostrf (Thermocouple.decode shade) 2 1)) :
    slots Moji =
        sentSlots (frame A tm T suibun (Thermocouple.decode word) (nikkou okujyou) flag)
          (A.dtostrf (Thermocouple.decode shade) 2 1) ↔
      (0 ≤ T ∧ 100 ≤ A.tenths T ∧ A.tenths T ≤ 999 ∨ T < 0 ∧ A.tenths T ≤ 99) ∧
      suibun ≤ 999 ∧
      (40 ≤ Thermocouple.quarters word ∧ Thermocouple.quarters word ≤ 399 ∨
        -39 ≤ Thermocouple.quarters word ∧ Thermocouple.quarters word ≤ -1) ∧
      (243 ≤ okujyou ∧ okujyou ≤ 292 ∨ 345 ≤ okujyou) ∧
      (40 ≤ Thermocouple.quarters shade ∧ Thermocouple.quarters shade ≤ 399 ∨
        -39 ≤ Thermocouple.quarters shade ∧ Thermocouple.quarters shade ≤ -1) := by
  have hsoil : (A.dtostrf suibun 3 0).length = 3 ↔ suibun ≤ 999 := by
    rw [A.dtostrf_natCast, length_column_three hsuibun]
    split <;> omega
  rw [slots_eq_iff (timeAligned_frame A htm ..) hMoji]
  show (A.dtostrf T 2 1).length = 4 ∧ (A.dtostrf suibun 3 0).length = 3 ∧
    (A.dtostrf (Thermocouple.decode word) 2 1).length = 4 ∧
    (A.dtostrf (nikkou okujyou) 2 1).length = 4 ∧ _ ↔ _
  rw [hsoil, length_dtostrf_eq_four_iff, length_dtostrf_eq_four_iff, length_dtostrf_eq_four_iff,
    length_dtostrf_eq_four_iff, fourWide_decode_iff, fourWide_decode_iff,
    fourWide_nikkou_iff A hokujyou, FourWide]

/-- A frame of noon: air at 20.0, water at 25.0 and 39.1 in the sun. -/
def noonFrame (suibun : ℕ) : Fields :=
  frame (.halfUp fun _ => 20) noon 20 suibun (Thermocouple.decode 0x0190) (nikkou 512)
    (ascii 'O')

/-- The relay's text for 24.5 degrees in the shade. -/
def noonShade : List UInt8 :=
  (Arduino.halfUp fun _ => 20).dtostrf (Thermocouple.decode 0x0188) 2 1

/-- The columns of a frame of noon. -/
theorem columns_hold_at_noon :
    slots (fill (fun _ => 0) ((noonFrame 300).send ++ noonShade)) =
      sentSlots (noonFrame 300) noonShade :=
  (columns_iff (.halfUp fun _ => 20) noon_valid 20 (by norm_num) 0x0190 (by norm_num)
    (ascii 'O') 0x0188 (lies_fill (fun _ => 0) _)).mpr (by decide +kernel)

/-- Wet soil: the reading 1000 takes four columns, and every later slot is off by one. -/
theorem columns_shift_when_wet :
    ¬ ∀ (A : Arduino) (tm : tmElements_t), tm.Valid → ∀ (T : ℚ) (suibun : ℕ), suibun ≤ 1023 →
      ∀ (word : UInt16) (okujyou : ℕ), okujyou ≤ 1023 → ∀ (flag : UInt8) (shade : UInt16)
        (Moji : ℕ → UInt8),
      Lies Moji 0
        ((frame A tm T suibun (Thermocouple.decode word) (nikkou okujyou) flag).send ++
          A.dtostrf (Thermocouple.decode shade) 2 1) →
      slots Moji =
        sentSlots (frame A tm T suibun (Thermocouple.decode word) (nikkou okujyou) flag)
          (A.dtostrf (Thermocouple.decode shade) 2 1) := by
  intro h
  have heq := h (.halfUp fun _ => 20) noon noon_valid 20 1000 (by norm_num) 0x0190 512
    (by norm_num) (ascii 'O') 0x0188 _ (lies_fill (fun _ => 0) _)
  have hlen : 3 = (noonFrame 1000).Suibun.length := congrArg (fun s => s.Suibun.length) heq
  revert hlen
  decide +kernel

end ArduinoProjects.Telemetry
