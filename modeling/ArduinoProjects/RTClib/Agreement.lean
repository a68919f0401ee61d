import ArduinoProjects.RTClib.DateTime

/-!
# RTClib and the Time library

The constructor of `DateTime` and `unixtime` are inverse to each other on all 32-bit times
(`unixtime_ofTime`). The calendar of the library begins in 2000 and takes 2100 for a leap
year, so it breaks a time into the fields that the Time library finds on exactly the times
from 2000 to 28 February 2100 (`ofTime_eq_breakTime_iff`).
-/

namespace ArduinoProjects.RTClib

open Util Util.Calendar

/-- The fields with the years counted from 1970, as the Time library counts them. -/
def DateTime.since1970 (dt : DateTime) : Reading :=
  { dt.reading with year := 30 + dt.reading.year }

lemma toNat_SECONDS_FROM_1970_TO_2000 : SECONDS_FROM_1970_TO_2000.toNat = 946684800 := rfl

lemma toNat_sub_2000 {t : UInt32} (h : 946684800 ≤ t.toNat) :
    (t - SECONDS_FROM_1970_TO_2000).toNat = t.toNat - 946684800 :=
  UInt32.toNat_sub_of_le _ _ (UInt32.le_iff_toNat_le.mpr h)

/-- `DateTime(t)` has the seconds since 2000, modulo 2^32. -/
lemma seconds_ofTime (t : UInt32) :
    (DateTime.ofTime t).seconds = (t - SECONDS_FROM_1970_TO_2000).toNat :=
  seconds_of_shows (ofTime_shows t) (UInt32.toNat_lt _)

/-- 1 January 2000 was a Saturday. -/
lemma toNat_dayOfTheWeek {dt : DateTime} {n : ℕ} (h : dt.reading.toDate.FallsOn leap n)
    (hn : n < 2 ^ 16 - 6) : dt.dayOfTheWeek.toNat = (n + 6) % 7 := by
  unfold DateTime.dayOfTheWeek
  rw [UInt16.toNat_toUInt8, UInt16.toNat_mod, UInt16.toNat_add, toNat_date2days h (by omega)]
  simp only [UInt16.reduceToNat]
  omega

/-- The constructor undoes `unixtime` on every date and time of 32 bits of seconds. -/
lemma ofTime_unixtime {dt : DateTime} {n : ℕ} (h : dt.reading.Shows leap n) (hn : n < 2 ^ 32) :
    DateTime.ofTime dt.unixtime = dt := by
  have hback := ofTime_shows dt.unixtime
  have hsub : dt.unixtime - SECONDS_FROM_1970_TO_2000 = UInt32.ofNat n := by
    rw [unixtime_eq, seconds_of_shows h hn]
    exact UInt32.add_sub_cancel _ _
  rw [hsub, UInt32.toNat_ofNat', Nat.mod_eq_of_lt hn] at hback
  exact DateTime.reading_inj (hback.reading_unique h)

/-- Every 32-bit time comes back, with the day of the week that the Time library computes,
which counts from 1. The `long` between holds the 32 bits of the seconds since 2000. -/
theorem unixtime_ofTime (t : UInt32) :
    (DateTime.ofTime t).secondstime = (t - SECONDS_FROM_1970_TO_2000).toInt32 ∧
      (DateTime.ofTime t).unixtime = t ∧
      (946684800 ≤ t.toNat →
        (DateTime.ofTime t).dayOfTheWeek.toNat + 1 = (Time.breakTime t).Wday.toNat) := by
  refine ⟨?_, ?_, fun h => ?_⟩
  · rw [secondstime_eq, seconds_ofTime, ← UInt32.toInt32_ofNat', UInt32.ofNat_toNat]
  · rw [unixtime_eq, seconds_ofTime, UInt32.ofNat_toNat, UInt32.sub_add_cancel]
  · have hlt := t.toNat_lt
    have hshows := ofTime_shows t
    rw [toNat_sub_2000 h] at hshows
    rw [toNat_dayOfTheWeek hshows.date (by omega), Time.breakTime_Wday, Time.weekdayOf]
    omega

/-! ## The two calendars -/

lemma LEAP_YEAR_eq : ∀ y < 137, y ≠ 100 → Time.LEAP_YEAR (30 + y) = leap y := by decide +kernel

/-- After 2100 the calendars are a day apart. -/
lemma start_years : ∀ y < 137, start (yearLength Time.LEAP_YEAR) (30 + y) +
    (if 100 < y then 1 else 0) = 10957 + start (yearLength leap) y := by
  decide +kernel

/-- 29 February 2100 is a date of RTClib only. -/
lemma leapDay_fallsOn : Date.FallsOn leap ⟨100, 2, 29⟩ 36584 :=
  ⟨⟨by decide, by decide⟩, by decide +kernel⟩

/-- The months before March begin on the same day in every year. -/
lemma start_months {b b' : Bool} {m : ℕ} (h : m ≤ 12) (hb : m ≤ 2 ∨ b = b') :
    start (monthLength b) (m - 1) = start (monthLength b') (m - 1) := by
  rw [start_monthLength b h, start_monthLength b' h]
  rcases hb with hm | rfl
  · rw [if_neg (by omega), if_neg (by omega)]
  · rfl

/-- A day has one date in both calendars iff it comes before that leap day. -/
lemma fallsOn_iff {D : Date} {n : ℕ} (h : D.FallsOn leap n) (hy : D.year < 137) :
    Date.FallsOn Time.LEAP_YEAR { D with year := 30 + D.year } (n + 10957) ↔ n < 36584 := by
  obtain ⟨⟨hm1, hm12⟩, hd1, hd⟩ := h.valid
  have heq := h.eq
  have hyears := start_years D.year hy
  rw [h.lt_iff leapDay_fallsOn]
  simp only [List.cons_lt_cons_iff, List.not_lt_nil, and_false, or_false]
  by_cases hleap : D.year = 100
  · -- 2100 is a leap year of one calendar only
    have hlen := start_monthLength true hm12
    have hrtc : leap D.year = true := by rw [hleap]; rfl
    have hgreg : Time.LEAP_YEAR (30 + D.year) = false := by rw [hleap]; rfl
    rw [hrtc] at hd heq
    simp only [and_true] at hlen
    rw [if_neg (by omega)] at hyears
    constructor
    · intro ⟨⟨_, hday⟩, hsum⟩
      dsimp only at hday hsum
      rw [hgreg] at hday hsum
      have hfeb : D.month = 2 → D.day ≤ 28 := by
        intro hfeb
        rw [hfeb] at hday
        exact hday.2
      rw [heq, hlen] at hsum
      split at hsum <;> omega
    · intro hlt
      refine ⟨⟨⟨hm1, hm12⟩, hd1, ?_⟩, ?_⟩ <;> dsimp only
      · rw [hgreg]
        have hmonth : D.month = 1 ∨ D.month = 2 := by omega
        rcases hmonth with hmonth | hmonth
        · rw [hmonth] at hd ⊢
          exact hd
        · rw [hmonth]
          show D.day ≤ 28
          omega
      · have hmonths : start (monthLength false) (D.month - 1) =
            start (monthLength true) (D.month - 1) := start_months hm12 (by omega)
        rw [hgreg, heq, hmonths]
        omega
  · have hsame := LEAP_YEAR_eq D.year hy hleap
    constructor
    · intro ⟨_, hsum⟩
      dsimp only at hsum
      rw [hsame] at hsum
      split at hyears <;> omega
    · intro hlt
      rw [if_neg (by omega)] at hyears
      refine ⟨⟨⟨hm1, hm12⟩, hd1, ?_⟩, ?_⟩ <;> dsimp only
      · rwa [hsame]
      · rw [hsame]
        omega

/-- The years of 32 bits of seconds. -/
lemma year_lt {R : Reading} {n : ℕ} (h : R.Shows leap n) (hn : n < 2 ^ 32) : R.year < 137 := by
  have hlow := (start_bounds (yearLength_bounds leap) R.year).1
  have hle := h.date.at_year.start_le
  omega

/-- Before 2000 the difference to 2000 wraps around, and the year is not before 2105. -/
lemma year_of_lt {t : UInt32} (h : t.toNat < 946684800) :
    105 ≤ (DateTime.ofTime t).reading.year := by
  have hshows := ofTime_shows t
  have hhigh := (start_bounds (yearLength_bounds leap) (DateTime.ofTime t).reading.year).2
  have hlt := hshows.date.at_year.lt_start_succ
  have hend := (start_bounds (yearLength_bounds leap) ((DateTime.ofTime t).reading.year + 1)).2
  have hwrap : (t - SECONDS_FROM_1970_TO_2000).toNat = t.toNat + 2 ^ 32 - 946684800 := by
    rw [UInt32.toNat_sub, toNat_SECONDS_FROM_1970_TO_2000]
    omega
  rw [hwrap] at hlt
  omega

/-- The fields as the Time library counts them show the time on its calendar. -/
lemma since1970_shows {t : UInt32} (hlow : 946684800 ≤ t.toNat) (hhigh : t.toNat < 4107542400) :
    (DateTime.ofTime t).since1970.Shows Time.LEAP_YEAR t.toNat := by
  have hrtc := ofTime_shows t
  rw [toNat_sub_2000 hlow] at hrtc
  have hday : t.toNat / 86400 = (t.toNat - 946684800) / 86400 + 10957 := by omega
  refine ⟨?_, ?_, ?_, ?_⟩
  · rw [hday]
    exact (fallsOn_iff hrtc.date (year_lt hrtc (by omega))).mpr (by omega)
  · rw [DateTime.since1970, hrtc.hour]
    omega
  · rw [DateTime.since1970, hrtc.minute]
    omega
  · rw [DateTime.since1970, hrtc.second]
    omega

/-- The libraries agree on a time iff it lies from 2000 to 28 February 2100. -/
theorem ofTime_eq_breakTime_iff (t : UInt32) :
    (DateTime.ofTime t).since1970 = (Time.breakTime t).reading ↔
      946684800 ≤ t.toNat ∧ t.toNat < 4107542400 := by
  have hrtc := ofTime_shows t
  have hgreg := Time.breakTime_shows t
  have hlt := t.toNat_lt
  by_cases h2000 : t.toNat < 946684800
  · have hyear := year_of_lt h2000
    refine ⟨fun heq => ?_, fun h => absurd h.1 (by omega)⟩
    have hlow := (start_bounds (yearLength_bounds Time.LEAP_YEAR)
      (Time.breakTime t).reading.year).1
    have hle := hgreg.date.at_year.start_le
    have h30 : (Time.breakTime t).reading.year = 30 + (DateTime.ofTime t).reading.year := by
      rw [← heq]
      rfl
    omega
  · refine ⟨fun heq => ?_, fun h => (since1970_shows h.1 h.2).reading_unique hgreg⟩
    rw [toNat_sub_2000 (Nat.le_of_not_lt h2000)] at hrtc
    rw [← heq] at hgreg
    have hday : t.toNat / 86400 = (t.toNat - 946684800) / 86400 + 10957 := by omega
    have hbound := (fallsOn_iff hrtc.date (year_lt hrtc (by omega))).mp (hday ▸ hgreg.date)
    omega

end ArduinoProjects.RTClib
