import ArduinoProjects.Satsumaimo1.Sketch

/-!
# The telemetry frame

The sender concatenates eleven texts without separators. The clock columns have fixed
widths for valid times (`time_inj`), and the three temperatures delimit themselves by
their decimal point. The soil reading does neither: written in three columns it may take
four, and then its last digit can pass for the first digit of the water temperature
behind it. `frame_unambiguous_iff` says that this is the only way two different reports
share their bytes.
-/

namespace ArduinoProjects

/-- A 24-hour time of the years 2000 to 2099. -/
structure tmElements_t.Valid (tm : tmElements_t) : Prop where
  year : 30 ≤ tm.Year.toNat ∧ tm.Year.toNat ≤ 129
  month : 1 ≤ tm.Month.toNat ∧ tm.Month.toNat ≤ 12
  day : 1 ≤ tm.Day.toNat ∧ tm.Day.toNat ≤ 31
  hour : tm.Hour.toNat ≤ 23
  minute : tm.Minute.toNat ≤ 59
  second : tm.Second.toNat ≤ 59

/-- The two structures agree in everything but the day of the week. -/
def tmElements_t.SameTime (t t' : tmElements_t) : Prop :=
  t.Year = t'.Year ∧ t.Month = t'.Month ∧ t.Day = t'.Day ∧ t.Hour = t'.Hour ∧
    t.Minute = t'.Minute ∧ t.Second = t'.Second

namespace Satsumaimo1

open Util

variable (A : Arduino)

/-! ## The clock columns -/

/-- The date and time as the frame shows them: the year, then five columns of two. -/
def timeText (tm : tmElements_t) : List UInt8 :=
  column 4 (tmYearToCalendar tm.Year) ++ column 2 tm.Month.toNat ++ column 2 tm.Day.toNat ++
    column 2 tm.Hour.toNat ++ column 2 tm.Minute.toNat ++ column 2 tm.Second.toNat

/-- Everything behind the clock columns. -/
def Fields.measurements (f : Fields) : List UInt8 :=
  f.Temp ++ (f.Suibun ++ (f.Suion ++ (f.Nikkou ++ [f.flag])))

/-- A frame begins with the time. -/
lemma send_fieldsOf (tm : tmElements_t) (Temp : List UInt8) (suibun : ℕ) (suion : ℚ)
    (Nikkou : List UInt8) (flag : UInt8) :
    (fieldsOf A tm Temp suibun suion Nikkou flag).send =
      timeText tm ++ (fieldsOf A tm Temp suibun suion Nikkou flag).measurements := by
  simp only [Fields.send, Fields.measurements, fieldsOf, timeText, Arduino.dtostrf_natCast,
    List.append_assoc]

/-- The widths of the six columns of a time. -/
structure TimeWidths (year month day hour minute second : ℕ) : Prop where
  year : (column 4 year).length = 4
  month : (column 2 month).length = 2
  day : (column 2 day).length = 2
  hour : (column 2 hour).length = 2
  minute : (column 2 minute).length = 2
  second : (column 2 second).length = 2

/-- Numbers that fit into their columns. -/
lemma timeWidths {Y M D h m s : ℕ} (hY : Y ≤ 9999) (hM : M ≤ 99) (hD : D ≤ 99) (hh : h ≤ 99)
    (hm : m ≤ 99) (hs : s ≤ 99) : TimeWidths Y M D h m s := by
  have htwo {n : ℕ} (hn : n ≤ 99) : (column 2 n).length = 2 :=
    length_column (by norm_num) (Nat.lt_succ_of_le hn)
  exact ⟨length_column (by norm_num) (Nat.lt_succ_of_le hY), htwo hM, htwo hD, htwo hh, htwo hm,
    htwo hs⟩

/-- The parts of a valid time fit into their columns. -/
lemma valid_widths {tm : tmElements_t} (h : tm.Valid) :
    TimeWidths (tmYearToCalendar tm.Year) tm.Month.toNat tm.Day.toNat tm.Hour.toNat
      tm.Minute.toNat tm.Second.toNat := by
  apply timeWidths
  · have := h.year
    unfold tmYearToCalendar
    omega
  · have := h.month
    omega
  · have := h.day
    omega
  · have := h.hour
    omega
  · have := h.minute
    omega
  · have := h.second
    omega

lemma length_timeText {tm : tmElements_t} (h : tm.Valid) : (timeText tm).length = 14 := by
  have hw := valid_widths h
  simp only [timeText, List.length_append, hw.year, hw.month, hw.day, hw.hour, hw.minute,
    hw.second]

lemma column_two_append_inj {m n : ℕ} (hm : m < 100) (hn : n < 100) {a b : List UInt8}
    (h : column 2 m ++ a = column 2 n ++ b) : m = n ∧ a = b := by
  obtain ⟨hcol, htail⟩ := List.append_inj h
    ((length_column (by norm_num) hm).trans (length_column (by norm_num) hn).symm)
  exact ⟨(column_inj hm hn).mp hcol, htail⟩

/-- Valid times with one text are one time. -/
lemma time_inj {t t' : tmElements_t} (h : t.Valid) (h' : t'.Valid) :
    timeText t = timeText t' ↔ t.SameTime t' := by
  constructor
  · intro heq
    simp only [timeText, List.append_assoc] at heq
    obtain ⟨hY, heq⟩ := List.append_inj heq
      ((valid_widths h).year.trans (valid_widths h').year.symm)
    obtain ⟨hM, heq⟩ := column_two_append_inj (by have := h.month; omega)
      (by have := h'.month; omega) heq
    obtain ⟨hD, heq⟩ := column_two_append_inj (by have := h.day; omega)
      (by have := h'.day; omega) heq
    obtain ⟨hH, heq⟩ := column_two_append_inj (by have := h.hour; omega)
      (by have := h'.hour; omega) heq
    obtain ⟨hm, heq⟩ := column_two_append_inj (by have := h.minute; omega)
      (by have := h'.minute; omega) heq
    have hs := (column_inj (by have := h.second; omega) (by have := h'.second; omega)).mp heq
    have hy := (column_inj (by have := h.year; unfold tmYearToCalendar; omega)
      (by have := h'.year; unfold tmYearToCalendar; omega)).mp hY
    unfold tmYearToCalendar at hy
    exact ⟨UInt8.toNat_inj.mp (by omega), UInt8.toNat_inj.mp hM, UInt8.toNat_inj.mp hD,
      UInt8.toNat_inj.mp hH, UInt8.toNat_inj.mp hm, UInt8.toNat_inj.mp hs⟩
  · intro ⟨hY, hM, hD, hH, hm, hs⟩
    rw [timeText, timeText, hY, hM, hD, hH, hm, hs]

/-! ## Two reports with the same bytes -/

/-- What one frame reports: a valid time, two decimal texts, a soil reading of the
converter, a fault-free thermocouple word and the flag byte. -/
structure Report where
  tm : tmElements_t
  Temp : List UInt8
  suibun : ℕ
  word : UInt16
  Nikkou : List UInt8
  flag : UInt8
  valid : tm.Valid
  isTenths_Temp : IsTenths Temp
  suibun_le : suibun ≤ 1023
  isTenths_Nikkou : IsTenths Nikkou

/-- The water temperature of a report. -/
def Report.suion (r : Report) : ℚ := Thermocouple.decode r.word

/-- The texts the sender writes for a report. -/
def Report.fields (r : Report) : Fields :=
  fieldsOf A r.tm r.Temp r.suibun r.suion r.Nikkou r.flag

/-- `q` reads a four-digit soil value, and its last digit in front of `q`'s water
temperature makes `p`'s; everything else is the same in both. -/
structure Shifted (p q : Report) : Prop where
  time : p.tm.SameTime q.tm
  Temp : p.Temp = q.Temp
  Nikkou : p.Nikkou = q.Nikkou
  flag : p.flag = q.flag
  four_digits : 1000 ≤ q.suibun
  leading : p.suibun = q.suibun / 10
  last : 1 ≤ q.suibun % 10
  nonneg : 0 ≤ p.suion ∧ 0 ≤ q.suion
  suion : A.tenths p.suion =
    q.suibun % 10 * 10 ^ ((decimal (A.tenths q.suion / 10)).length + 1) + A.tenths q.suion

lemma dtostrf_tenths_of_nonneg {v : ℚ} (h : 0 ≤ v) : A.dtostrf v 2 1 = fixed (A.tenths v) 1 := by
  rw [Arduino.dtostrf_tenths, if_neg (not_lt.mpr h), List.nil_append]

lemma dtostrf_tenths_of_neg {v : ℚ} (h : v < 0) :
    A.dtostrf v 2 1 = ascii '-' :: fixed (A.tenths v) 1 := by
  rw [Arduino.dtostrf_tenths, if_pos h, List.singleton_append]

/-- Four digits overflow the three columns of the soil reading. -/
lemma column_three_of_ge {n : ℕ} (h : 1000 ≤ n) (hle : n ≤ 1023) :
    column 3 n = column 3 (n / 10) ++ [digit (n % 10)] := by
  -- the first three digits leave nothing to pad
  have hlen : 3 ≤ (decimal (n / 10)).length := by
    by_contra hlt
    have hle2 : (decimal (n / 10)).length ≤ 2 := by omega
    have := (length_decimal_le_iff (by norm_num)).mp hle2
    omega
  rw [column, column, decimal_of_ge (by omega), List.leftpad, List.leftpad, List.length_append,
    List.length_singleton, Nat.sub_eq_zero_of_le (by omega), Nat.sub_eq_zero_of_le hlen]
  rfl

lemma length_column_three {n : ℕ} (hle : n ≤ 1023) :
    (column 3 n).length = if 1000 ≤ n then 4 else 3 := by
  by_cases h : 1000 ≤ n
  · rw [column_three_of_ge h hle, List.length_append, length_column (by norm_num) (by omega),
      if_pos h]
    rfl
  · rw [length_column (by norm_num) (by omega), if_neg h]

/-- The measurements of a report, one text after the other. -/
lemma measurements_fields (r : Report) :
    (r.fields A).measurements =
      r.Temp ++ (column 3 r.suibun ++ (A.dtostrf r.suion 2 1 ++ (r.Nikkou ++ [r.flag]))) := by
  simp only [Report.fields, Fields.measurements, fieldsOf, Arduino.dtostrf_natCast]

/-- The frames agree iff the times do and the measurements do. -/
lemma send_eq_iff (p q : Report) :
    (p.fields A).send = (q.fields A).send ↔
      p.tm.SameTime q.tm ∧ (p.fields A).measurements = (q.fields A).measurements := by
  rw [← time_inj p.valid q.valid]
  constructor
  · intro h
    rw [Report.fields, Report.fields, send_fieldsOf, send_fieldsOf] at h
    exact List.append_inj h ((length_timeText p.valid).trans (length_timeText q.valid).symm)
  · intro ⟨htime, hrest⟩
    rw [Report.fields, Report.fields, send_fieldsOf, send_fieldsOf, htime]
    exact congrArg _ hrest

/-- A digit in front of a temperature is all that a fourth soil digit can hide in. -/
lemma suion_of_shift {v w : ℚ} {y : ℕ} (hy : y < 10) {a b : List UInt8}
    (h : A.dtostrf v 2 1 ++ a = digit y :: (A.dtostrf w 2 1 ++ b)) :
    0 ≤ v ∧ 0 ≤ w ∧ fixed (A.tenths v) 1 = digit y :: fixed (A.tenths w) 1 ∧ a = b := by
  -- a minus sign cannot stand behind the digit, nor in front of it
  have hw : 0 ≤ w := by
    by_contra hneg
    rw [dtostrf_tenths_of_neg A (not_le.mp hneg)] at h
    exact (A.isTenths_dtostrf v).append_ne_digit_minus hy _ _ h
  rw [dtostrf_tenths_of_nonneg A hw, ← List.cons_append] at h
  obtain ⟨htext, hab⟩ := (A.isTenths_dtostrf v).append_inj (IsTenths.digit_cons hy _) h
  have hv : 0 ≤ v := by
    by_contra hneg
    rw [dtostrf_tenths_of_neg A (not_le.mp hneg)] at htext
    exact not_isDigit_minus ((List.cons.inj htext).1 ▸ isDigit_digit hy)
  rw [dtostrf_tenths_of_nonneg A hv] at htext
  exact ⟨hv, hw, htext, hab⟩

/-- Equal bytes with a soil text of three columns against one of four. -/
lemma shifted_of_send_eq {p q : Report} (hp : p.suibun < 1000) (hq : 1000 ≤ q.suibun)
    (h : (p.fields A).send = (q.fields A).send) : Shifted A p q := by
  have hy : q.suibun % 10 < 10 := Nat.mod_lt _ (by norm_num)
  have hq' := q.suibun_le
  obtain ⟨htime, hmeas⟩ := (send_eq_iff A p q).mp h
  rw [measurements_fields, measurements_fields] at hmeas
  obtain ⟨hTemp, hmeas⟩ := p.isTenths_Temp.append_inj q.isTenths_Temp hmeas
  -- three of the four digits are `p`'s soil reading, the last one goes to its water
  rw [column_three_of_ge hq q.suibun_le, List.append_assoc] at hmeas
  obtain ⟨hcol, hmeas⟩ := List.append_inj hmeas
    (by rw [length_column (by norm_num) hp, length_column (by norm_num) (by omega)])
  obtain ⟨hv, hw, hsuion, htail⟩ := suion_of_shift A hy hmeas
  obtain ⟨hNikkou, hflag⟩ := p.isTenths_Nikkou.append_inj q.isTenths_Nikkou htail
  obtain ⟨hlast, htenths⟩ := (fixed_one_cons_iff hy).mp hsuion
  exact ⟨htime, hTemp, hNikkou, (List.cons.inj hflag).1, hq,
    (column_inj hp (by omega)).mp hcol, hlast, ⟨hv, hw⟩, htenths⟩

/-- Shifted reports share their bytes and differ in the soil text. -/
lemma Shifted.send_eq {p q : Report} (h : Shifted A p q) :
    (p.fields A).send = (q.fields A).send ∧ (p.fields A).Suibun ≠ (q.fields A).Suibun := by
  have hy : q.suibun % 10 < 10 := Nat.mod_lt _ (by norm_num)
  have hfixed := (fixed_one_cons_iff hy).mpr ⟨h.last, h.suion⟩
  constructor
  · rw [send_eq_iff, measurements_fields, measurements_fields, h.Temp, h.Nikkou, h.flag,
      column_three_of_ge h.four_digits q.suibun_le, ← h.leading,
      dtostrf_tenths_of_nonneg A h.nonneg.1, dtostrf_tenths_of_nonneg A h.nonneg.2, hfixed]
    refine ⟨h.time, ?_⟩
    simp only [List.append_assoc, List.cons_append, List.nil_append]
  · intro heq
    simp only [Report.fields, fieldsOf, Arduino.dtostrf_natCast] at heq
    have hlen := congrArg List.length heq
    rw [length_column_three p.suibun_le, length_column_three q.suibun_le,
      if_neg (by have := h.leading; have := q.suibun_le; omega), if_pos h.four_digits] at hlen
    omega

/-- Equal bytes with soil texts of one width are equal reports. -/
lemma fields_eq_of_send_eq {p q : Report} (hlen : 1000 ≤ p.suibun ↔ 1000 ≤ q.suibun)
    (h : (p.fields A).send = (q.fields A).send) : p.fields A = q.fields A := by
  obtain ⟨⟨hY, hM, hD, hH, hm, hs⟩, hmeas⟩ := (send_eq_iff A p q).mp h
  rw [measurements_fields, measurements_fields] at hmeas
  obtain ⟨hTemp, hmeas⟩ := p.isTenths_Temp.append_inj q.isTenths_Temp hmeas
  obtain ⟨hSuibun, hmeas⟩ := List.append_inj hmeas
    (by simp only [length_column_three p.suibun_le, length_column_three q.suibun_le, hlen])
  obtain ⟨hSuion, hmeas⟩ := (A.isTenths_dtostrf _).append_inj (A.isTenths_dtostrf _) hmeas
  obtain ⟨hNikkou, hflag⟩ := p.isTenths_Nikkou.append_inj q.isTenths_Nikkou hmeas
  simp only [Report.fields, fieldsOf, Arduino.dtostrf_natCast, hY, hM, hD, hH, hm, hs, hTemp,
    hSuibun, hSuion, hNikkou, (List.cons.inj hflag).1]

/-- Two reports with the same bytes have the same texts, unless one is the other shifted. -/
theorem frame_unambiguous_iff (p q : Report) :
    ((p.fields A).send = (q.fields A).send → p.fields A = q.fields A) ↔
      ¬ Shifted A p q ∧ ¬ Shifted A q p := by
  constructor
  · intro h
    refine ⟨fun hs => ?_, fun hs => ?_⟩
    · exact hs.send_eq.2 (congrArg Fields.Suibun (h hs.send_eq.1))
    · exact hs.send_eq.2 (congrArg Fields.Suibun (h hs.send_eq.1.symm).symm)
  · intro ⟨hpq, hqp⟩ hsend
    -- soil texts of different widths would make one report the other shifted
    by_cases hp : 1000 ≤ p.suibun <;> by_cases hq : 1000 ≤ q.suibun
    · exact fields_eq_of_send_eq A (iff_of_true hp hq) hsend
    · exact absurd (shifted_of_send_eq A (not_le.mp hq) hp hsend.symm) hqp
    · exact absurd (shifted_of_send_eq A (not_le.mp hp) hq hsend) hpq
    · exact fields_eq_of_send_eq A (iff_of_false hp hq) hsend

/-- Noon of 1 July 2016. -/
def noon : tmElements_t := ⟨0, 0, 12, 6, 1, 7, 46⟩

lemma noon_valid : noon.Valid :=
  ⟨by decide, by decide, by decide, by decide, by decide, by decide⟩

/-- Noon with air at 20.0, 39.1 degrees in the sun and the valve open. -/
def noonReport (suibun : Fin 1024) (word : UInt16) : Report where
  tm := noon
  Temp := fixed 200 1
  suibun := suibun
  word := word
  Nikkou := fixed 391 1
  flag := ascii 'O'
  valid := noon_valid
  isTenths_Temp := isTenths_fixed 200
  suibun_le := by omega
  isTenths_Nikkou := isTenths_fixed 391

/-- Soil 100 with water at 55.0 and soil 1005 with water at 5.0 both read `10055.0`. -/
theorem frame_ambiguous :
    ¬ ∀ (A : Arduino) (p q : Report), (p.fields A).send = (q.fields A).send →
      p.fields A = q.fields A := by
  intro h
  have heq := congrArg Fields.Suibun (h (.halfUp fun _ => 20) (noonReport 100 0x0370)
    (noonReport 1005 0x0050) (by decide +kernel))
  revert heq
  decide +kernel

end Satsumaimo1
end ArduinoProjects
