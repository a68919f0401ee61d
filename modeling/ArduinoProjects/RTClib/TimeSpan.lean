import ArduinoProjects.RTClib.Agreement

/-!
# `TimeSpan` and `RTC_Millis`

A `TimeSpan` is a signed 32-bit number of seconds. Taken apart into days, hours, minutes and
seconds it is put together again (`ofParts_parts`); times that a `long` can hold form a line
on which spans are the differences (`add_diff`). The clock on top of `millis()` goes right
until the counter rolls over, and no longer (`millis_now_iff`).
-/

namespace ArduinoProjects.RTClib

open Util Util.Calendar

/-- A difference of two times. -/
structure TimeSpan where
  _seconds : Int32
deriving DecidableEq

namespace TimeSpan

/-- `TimeSpan::days()`. -/
def days (span : TimeSpan) : Int16 := (span._seconds / 86400).toInt16

/-- `TimeSpan::hours()`. -/
def hours (span : TimeSpan) : Int8 := (span._seconds / 3600 % 24).toInt8

/-- `TimeSpan::minutes()`. -/
def minutes (span : TimeSpan) : Int8 := (span._seconds / 60 % 60).toInt8

/-- `TimeSpan::seconds()`. -/
def seconds (span : TimeSpan) : Int8 := (span._seconds % 60).toInt8

/-- `TimeSpan::totalseconds()`. -/
def totalseconds (span : TimeSpan) : Int32 := span._seconds

/-- The constructor `TimeSpan (int16_t days, int8_t hours, int8_t minutes, int8_t seconds)`. -/
def ofParts (days : Int16) (hours minutes seconds : Int8) : TimeSpan :=
  ⟨days.toInt32 * 86400 + hours.toInt32 * 3600 + minutes.toInt32 * 60 + seconds.toInt32⟩

/-! ## Days, hours, minutes and seconds -/

/-- A division of C: the remainder has the sign of the dividend. -/
lemma tdiv_tmod (x : ℤ) {b : ℤ} (hb : 0 < b) :
    b * x.tdiv b + x.tmod b = x ∧ (0 ≤ x → 0 ≤ x.tmod b) ∧ (x ≤ 0 → x.tmod b ≤ 0) ∧
      -b < x.tmod b ∧ x.tmod b < b := by
  refine ⟨Int.mul_tdiv_add_tmod x b, Int.tmod_nonneg b, fun h => ?_, Int.lt_tmod_of_pos x hb,
    Int.tmod_lt_of_pos x hb⟩
  have hneg := Int.tmod_nonneg b (show 0 ≤ -x by omega)
  rw [Int.neg_tmod] at hneg
  omega

section
variable (span : TimeSpan)

lemma toInt_days : span.days.toInt = span._seconds.toInt.tdiv 86400 := by
  have hlo := span._seconds.le_toInt
  have hhi := span._seconds.toInt_lt
  have hdiv := tdiv_tmod span._seconds.toInt (b := 86400) (by norm_num)
  rw [days, Int32.toInt_toInt16, Int32.toInt_div_of_ne_right _ _ (by decide),
    show Int32.toInt 86400 = 86400 from rfl]
  exact Int.bmod_eq_of_le (by omega) (by omega)

lemma toInt_hours : span.hours.toInt = (span._seconds.toInt.tdiv 3600).tmod 24 := by
  have hmod := tdiv_tmod (span._seconds.toInt.tdiv 3600) (b := 24) (by norm_num)
  rw [hours, Int32.toInt_toInt8, Int32.toInt_mod, Int32.toInt_div_of_ne_right _ _ (by decide),
    show Int32.toInt 3600 = 3600 from rfl, show Int32.toInt 24 = 24 from rfl]
  exact Int.bmod_eq_of_le (by omega) (by omega)

lemma toInt_minutes : span.minutes.toInt = (span._seconds.toInt.tdiv 60).tmod 60 := by
  have hmod := tdiv_tmod (span._seconds.toInt.tdiv 60) (b := 60) (by norm_num)
  rw [minutes, Int32.toInt_toInt8, Int32.toInt_mod, Int32.toInt_div_of_ne_right _ _ (by decide),
    show Int32.toInt 60 = 60 from rfl]
  exact Int.bmod_eq_of_le (by omega) (by omega)

lemma toInt_seconds : span.seconds.toInt = span._seconds.toInt.tmod 60 := by
  have hmod := tdiv_tmod span._seconds.toInt (b := 60) (by norm_num)
  rw [seconds, Int32.toInt_toInt8, Int32.toInt_mod, show Int32.toInt 60 = 60 from rfl]
  exact Int.bmod_eq_of_le (by omega) (by omega)

/-- The parts have the sign of the span and stay below a day, an hour and a minute. -/
structure Parts (total days hours minutes seconds : ℤ) : Prop where
  sum : days * 86400 + hours * 3600 + minutes * 60 + seconds = total
  nonneg : 0 ≤ total → 0 ≤ days ∧ 0 ≤ hours ∧ 0 ≤ minutes ∧ 0 ≤ seconds
  nonpos : total ≤ 0 → days ≤ 0 ∧ hours ≤ 0 ∧ minutes ≤ 0 ∧ seconds ≤ 0
  hours : -24 < hours ∧ hours < 24
  minutes : -60 < minutes ∧ minutes < 60
  seconds : -60 < seconds ∧ seconds < 60

/-- The parts of a span are those of its seconds. -/
lemma parts : Parts span._seconds.toInt span.days.toInt span.hours.toInt span.minutes.toInt
    span.seconds.toInt := by
  rw [toInt_days, toInt_hours, toInt_minutes, toInt_seconds]
  generalize span._seconds.toInt = x
  have hd := tdiv_tmod x (b := 86400) (by norm_num)
  have hh := tdiv_tmod x (b := 3600) (by norm_num)
  have hh' := tdiv_tmod (x.tdiv 3600) (b := 24) (by norm_num)
  have hm := tdiv_tmod x (b := 60) (by norm_num)
  have hm' := tdiv_tmod (x.tdiv 60) (b := 60) (by norm_num)
  constructor <;> omega

/-- Every span is put together again from its parts, and no `int8_t` or `int16_t` is too
small for them. -/
theorem ofParts_parts :
    ofParts span.days span.hours span.minutes span.seconds = span ∧
      Parts span._seconds.toInt span.days.toInt span.hours.toInt span.minutes.toInt
        span.seconds.toInt := by
  have hparts := parts span
  refine ⟨congrArg TimeSpan.mk (Int32.toInt_inj.mp ?_), hparts⟩
  simp only [Int32.toInt_add, Int32.toInt_mul, Int16.toInt_toInt32, Int8.toInt_toInt32,
    show Int32.toInt 86400 = 86400 from rfl, show Int32.toInt 3600 = 3600 from rfl,
    show Int32.toInt 60 = 60 from rfl, Int.add_bmod_bmod, Int.bmod_add_bmod]
  rw [hparts.sum, Int32.toInt_bmod]

end

end TimeSpan

/-! ## Times and spans -/

/-- `operator+`: a span later. -/
def DateTime.add (dt : DateTime) (span : TimeSpan) : DateTime :=
  DateTime.ofTime (dt.unixtime + span.totalseconds.toUInt32)

/-- `operator-`: a span earlier. -/
def DateTime.sub (dt : DateTime) (span : TimeSpan) : DateTime :=
  DateTime.ofTime (dt.unixtime - span.totalseconds.toUInt32)

/-- The difference of two times. -/
def DateTime.diff (dt right : DateTime) : TimeSpan := ⟨(dt.unixtime - right.unixtime).toInt32⟩

/-- The last second that a `long` counts is 03:14:07 of 19 January 2068. -/
def lastReading : Reading := ⟨⟨68, 1, 19⟩, 3, 14, 7⟩

lemma lastReading_shows : lastReading.Shows leap (2 ^ 31 - 1) :=
  ⟨⟨⟨by decide, by decide⟩, by decide +kernel⟩, rfl, rfl, rfl⟩

/-- A date and time of day of which a `long` holds the second. -/
structure DateTime.Fits (dt : DateTime) : Prop where
  valid : dt.reading.Valid leap
  not_later : ¬ lastReading.tuple < dt.reading.tuple

/-- A time that fits shows its seconds. -/
lemma DateTime.Fits.shows {dt : DateTime} (h : dt.Fits) :
    dt.reading.Shows leap dt.seconds ∧ dt.seconds < 2 ^ 31 := by
  obtain ⟨n, hn⟩ := h.valid.exists_shows
  have hlast : n ≤ 2 ^ 31 - 1 := by
    by_contra hlt
    exact h.not_later ((lastReading_shows.lt_iff hn).mp (by omega))
  rw [seconds_of_shows hn (by omega)]
  exact ⟨hn, by omega⟩

/-- For a time that fits the `long` is the number of seconds. -/
lemma DateTime.Fits.toInt_secondstime {dt : DateTime} (h : dt.Fits) :
    dt.secondstime.toInt = dt.seconds := by
  rw [secondstime_eq, Int32.toInt_ofNat_of_lt h.shows.2]

/-- The difference of two times is the number of seconds between them, is positive iff the
second one comes first, leads from each time to the other, and is put together again from its
days, hours, minutes and seconds. -/
theorem add_diff {dt right : DateTime} (h : dt.Fits) (h' : right.Fits) :
    (dt.diff right).totalseconds.toInt = dt.secondstime.toInt - right.secondstime.toInt ∧
      (0 < (dt.diff right).totalseconds ↔ right.reading.tuple < dt.reading.tuple) ∧
      right.add (dt.diff right) = dt ∧ dt.sub (dt.diff right) = right ∧
      TimeSpan.ofParts (dt.diff right).days (dt.diff right).hours (dt.diff right).minutes
        (dt.diff right).seconds = dt.diff right := by
  obtain ⟨hshows, hlt⟩ := h.shows
  obtain ⟨hshows', hlt'⟩ := h'.shows
  have hdiff : (dt.diff right).totalseconds.toInt = (dt.seconds : ℤ) - right.seconds := by
    show (dt.unixtime - right.unixtime).toInt32.toInt = _
    have hcancel : dt.unixtime - right.unixtime =
        UInt32.ofNat dt.seconds - UInt32.ofNat right.seconds := by
      rw [unixtime_eq, unixtime_eq]
      grind
    rw [hcancel, UInt32.toInt32_sub, UInt32.toInt32_ofNat', UInt32.toInt32_ofNat',
      Int32.toInt_sub, Int32.toInt_ofNat_of_lt hlt, Int32.toInt_ofNat_of_lt hlt']
    exact Int.bmod_eq_of_le (by omega) (by omega)
  refine ⟨by rw [h.toInt_secondstime, h'.toInt_secondstime, hdiff], ?_, ?_, ?_,
    (TimeSpan.ofParts_parts _).1⟩
  · rw [Int32.lt_iff_toInt_lt, hdiff, ← hshows'.lt_iff hshows]
    show (0 : ℤ) < _ ↔ _
    omega
  · have hsum : right.unixtime + (dt.diff right).totalseconds.toUInt32 = dt.unixtime := by
      show right.unixtime + (dt.unixtime - right.unixtime).toInt32.toUInt32 = _
      rw [UInt32.toUInt32_toInt32]
      grind
    rw [DateTime.add, hsum, ofTime_unixtime hshows (by omega)]
  · have hrest : dt.unixtime - (dt.diff right).totalseconds.toUInt32 = right.unixtime := by
      show dt.unixtime - (dt.unixtime - right.unixtime).toInt32.toUInt32 = _
      rw [UInt32.toUInt32_toInt32]
      grind
    rw [DateTime.sub, hrest, ofTime_unixtime hshows' (by omega)]

/-- The leap day of 2016 and the day of the year before it. -/
theorem add_diff_leap_day :
    (DateTime.diff ⟨16, 2, 29, 0, 0, 0⟩ ⟨15, 2, 28, 0, 0, 0⟩).totalseconds.toInt =
        (DateTime.secondstime ⟨16, 2, 29, 0, 0, 0⟩).toInt -
          (DateTime.secondstime ⟨15, 2, 28, 0, 0, 0⟩).toInt ∧
      (0 < (DateTime.diff ⟨16, 2, 29, 0, 0, 0⟩ ⟨15, 2, 28, 0, 0, 0⟩).totalseconds ↔
        [15, 2, 28, 0, 0, 0] < [16, 2, 29, 0, 0, 0]) ∧
      DateTime.add ⟨15, 2, 28, 0, 0, 0⟩
        (DateTime.diff ⟨16, 2, 29, 0, 0, 0⟩ ⟨15, 2, 28, 0, 0, 0⟩) = ⟨16, 2, 29, 0, 0, 0⟩ ∧
      DateTime.sub ⟨16, 2, 29, 0, 0, 0⟩
        (DateTime.diff ⟨16, 2, 29, 0, 0, 0⟩ ⟨15, 2, 28, 0, 0, 0⟩) = ⟨15, 2, 28, 0, 0, 0⟩ ∧
      TimeSpan.ofParts (DateTime.diff ⟨16, 2, 29, 0, 0, 0⟩ ⟨15, 2, 28, 0, 0, 0⟩).days
          (DateTime.diff ⟨16, 2, 29, 0, 0, 0⟩ ⟨15, 2, 28, 0, 0, 0⟩).hours
          (DateTime.diff ⟨16, 2, 29, 0, 0, 0⟩ ⟨15, 2, 28, 0, 0, 0⟩).minutes
          (DateTime.diff ⟨16, 2, 29, 0, 0, 0⟩ ⟨15, 2, 28, 0, 0, 0⟩).seconds =
        DateTime.diff ⟨16, 2, 29, 0, 0, 0⟩ ⟨15, 2, 28, 0, 0, 0⟩ :=
  add_diff
    (show DateTime.Fits ⟨16, 2, 29, 0, 0, 0⟩ from
      ⟨⟨⟨by decide, by decide⟩, by decide, by decide, by decide⟩, by decide⟩)
    (show DateTime.Fits ⟨15, 2, 28, 0, 0, 0⟩ from
      ⟨⟨⟨by decide, by decide⟩, by decide, by decide, by decide⟩, by decide⟩)

/-! ## `RTC_Millis` -/

/-- The 32 bits of `offset`. -/
def RTC_Millis.adjust (dt : DateTime) (millis : UInt32) : UInt32 := dt.unixtime - millis / 1000

/-- `RTC_Millis::now()`, with the value of `millis()`. -/
def RTC_Millis.now (offset millis : UInt32) : DateTime :=
  DateTime.ofTime (offset + millis / 1000)

/-- The quotient of the counter at a time in milliseconds. -/
lemma toNat_millis_div (ms : ℕ) : (UInt32.ofNat ms / 1000).toNat = ms % 2 ^ 32 / 1000 := by
  rw [UInt32.toNat_div, UInt32.toNat_ofNat']
  rfl

/-- The clock is right to the second iff the counter has not rolled over since it was
adjusted. -/
theorem millis_now_iff {dt : DateTime} (h : dt.Fits) {ms₀ ms : ℕ} (hle : ms₀ ≤ ms)
    (hlt : dt.seconds + (ms - ms₀) / 1000 + 1 < 2 ^ 31) :
    (∃ n, (RTC_Millis.now (RTC_Millis.adjust dt (UInt32.ofNat ms₀))
        (UInt32.ofNat ms)).reading.Shows leap (dt.seconds + n) ∧
      1000 * n < ms - ms₀ + 1000 ∧ ms - ms₀ < 1000 * n + 1000) ↔ ms / 2 ^ 32 = ms₀ / 2 ^ 32 := by
  have hshows := ofTime_shows
    (RTC_Millis.adjust dt (UInt32.ofNat ms₀) + UInt32.ofNat ms / 1000)
  have hcancel : RTC_Millis.adjust dt (UInt32.ofNat ms₀) + UInt32.ofNat ms / 1000 -
      SECONDS_FROM_1970_TO_2000 =
        UInt32.ofNat dt.seconds - UInt32.ofNat ms₀ / 1000 + UInt32.ofNat ms / 1000 := by
    rw [RTC_Millis.adjust, unixtime_eq]
    grind
  have hnat : (UInt32.ofNat dt.seconds - UInt32.ofNat ms₀ / 1000 +
      UInt32.ofNat ms / 1000).toNat =
        (2 ^ 32 - ms₀ % 2 ^ 32 / 1000 + dt.seconds + ms % 2 ^ 32 / 1000) % 2 ^ 32 := by
    have hbound := h.shows.2
    rw [UInt32.toNat_add, UInt32.toNat_sub, toNat_millis_div, toNat_millis_div,
      UInt32.toNat_ofNat']
    omega
  rw [hcancel, hnat] at hshows
  rw [RTC_Millis.now]
  have hq₀ : ms₀ % 2 ^ 32 / 1000 ≤ 4294967 := by omega
  have hq : ms % 2 ^ 32 / 1000 ≤ 4294967 := by omega
  -- the second on show is `n` ahead iff the two quotients are
  have hsecond {n : ℕ} (hn : dt.seconds + n < 2 ^ 31) :
      (2 ^ 32 - ms₀ % 2 ^ 32 / 1000 + dt.seconds + ms % 2 ^ 32 / 1000) % 2 ^ 32 =
        dt.seconds + n ↔ ms % 2 ^ 32 / 1000 = ms₀ % 2 ^ 32 / 1000 + n := by
    generalize ms₀ % 2 ^ 32 / 1000 = q₀ at hq₀
    generalize ms % 2 ^ 32 / 1000 = q at hq
    omega
  constructor
  · intro ⟨n, hn, hlow, hhigh⟩
    have hquot := (hsecond (by omega)).mp (hshows.second_unique hn)
    omega
  · intro hsame
    have hquot : ms % 2 ^ 32 / 1000 =
        ms₀ % 2 ^ 32 / 1000 + (ms % 2 ^ 32 / 1000 - ms₀ % 2 ^ 32 / 1000) := by omega
    refine ⟨ms % 2 ^ 32 / 1000 - ms₀ % 2 ^ 32 / 1000, ?_, by omega, by omega⟩
    rwa [(hsecond (by omega)).mpr hquot] at hshows

/-- Fifty days after 1 July 2016. -/
theorem millis_now_iff_fifty_days :
    (∃ n, (RTC_Millis.now (RTC_Millis.adjust ⟨16, 7, 1, 0, 0, 0⟩ (UInt32.ofNat 0))
        (UInt32.ofNat 4320000000)).reading.Shows leap
          (DateTime.seconds ⟨16, 7, 1, 0, 0, 0⟩ + n) ∧
      1000 * n < 4320000000 - 0 + 1000 ∧ 4320000000 - 0 < 1000 * n + 1000) ↔
        4320000000 / 2 ^ 32 = 0 / 2 ^ 32 :=
  millis_now_iff
    (show DateTime.Fits ⟨16, 7, 1, 0, 0, 0⟩ from
      ⟨⟨⟨by decide, by decide⟩, by decide, by decide, by decide⟩, by decide⟩)
    (by decide) (by decide +kernel)

end ArduinoProjects.RTClib
