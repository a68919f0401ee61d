import ArduinoProjects.DS1307RTC
import ArduinoProjects.Util.Calendar

/-!
# `breakTime` and `makeTime`

The Time library counts seconds from 1970 in 32 bits and turns them into a `tmElements_t`
and back. Both directions compute the reading of the Gregorian calendar
(`breakTime_shows`, `makeTime_of_shows`), so they are inverse to each other on all 32-bit
times and on all dates that fit into them.
-/

namespace ArduinoProjects

/-- The fields as the reading of a clock. -/
def tmElements_t.reading (tm : tmElements_t) : Util.Calendar.Reading where
  year := tm.Year.toNat
  month := tm.Month.toNat
  day := tm.Day.toNat
  hour := tm.Hour.toNat
  minute := tm.Minute.toNat
  second := tm.Second.toNat

namespace Time

open Util Util.Calendar

/-- A minute. -/
def SECS_PER_MIN : UInt32 := 60

/-- An hour. -/
def SECS_PER_HOUR : UInt32 := 3600

/-- A day. -/
def SECS_PER_DAY : UInt32 := SECS_PER_HOUR * 24

/-- The macro, on a year counted from 1970. -/
def LEAP_YEAR (Y : ℕ) : Bool :=
  decide (1970 + Y > 0) && (1970 + Y) % 4 == 0 &&
    ((1970 + Y) % 100 != 0 || (1970 + Y) % 400 == 0)

/-- The table of the months of a common year. -/
def monthDays : List UInt8 := [31, 28, 31, 30, 31, 30, 31, 31, 30, 31, 30, 31]

/-! ## `breakTime` -/

/-- `LEAP_YEAR(year) ? 366 : 365` -/
def daysOf (year : UInt8) : UInt32 := if LEAP_YEAR year.toNat then 366 else 365

/-- The `while` loop: the year in which the day `time` lies, and the days up to its end.
An `unsigned` has 16 bits. -/
def yearLoop (time : UInt32) : ℕ → UInt8 → UInt32 → Option (UInt8 × UInt32)
  | 0, _, _ => none
  | fuel + 1, year, days =>
    let days := days + daysOf year
    if days.toUInt16.toUInt32 ≤ time then yearLoop time fuel (year + 1) days
    else some (year, days)

/-- `monthLength` in the `for` loop. -/
def monthLength (leap : Bool) (month : UInt8) : UInt8 :=
  if month = 1 then -- february
    if leap then 29 else 28
  else monthDays.getD month.toNat 0

/-- The `for` loop with so many turns left. -/
def monthLoop (leap : Bool) : ℕ → UInt8 → UInt32 → UInt8 × UInt32
  | 0, month, time => (month, time)
  | left + 1, month, time =>
    if (monthLength leap month).toUInt32 ≤ time then
      monthLoop leap left (month + 1) (time - (monthLength leap month).toUInt32)
    else (month, time)

lemma toNat_daysOf (year : UInt8) : (daysOf year).toNat = yearLength LEAP_YEAR year.toNat := by
  unfold daysOf yearLength
  split <;> rfl

/-- The loop ends in the year of the day, if 16 bits hold the days up to its end. -/
lemma yearLoop_eq {time : UInt32} {y k : ℕ} (h : At (yearLength LEAP_YEAR) time.toNat y k)
    (hy : y < 256) (hend : start (yearLength LEAP_YEAR) (y + 1) < 2 ^ 16) :
    ∀ (fuel : ℕ) (year : UInt8) (days : UInt32), year.toNat ≤ y → y < year.toNat + fuel →
      days.toNat = start (yearLength LEAP_YEAR) year.toNat →
      yearLoop time fuel year days =
        some (UInt8.ofNat y, UInt32.ofNat (start (yearLength LEAP_YEAR) (y + 1))) := by
  intro fuel
  induction fuel with
  | zero =>
    intro year days h1 h2
    omega
  | succ fuel ih =>
    intro year days hle hfuel hdays
    have hsucc := start_succ (yearLength LEAP_YEAR) year.toNat
    have hmono := start_mono (yearLength LEAP_YEAR) (show year.toNat + 1 ≤ y + 1 by omega)
    have hsum : (days + daysOf year).toNat = start (yearLength LEAP_YEAR) (year.toNat + 1) := by
      rw [UInt32.toNat_add, hdays, toNat_daysOf, ← hsucc]
      exact Nat.mod_eq_of_lt (by omega)
    have hcast : (days + daysOf year).toUInt16.toUInt32.toNat =
        start (yearLength LEAP_YEAR) (year.toNat + 1) := by
      rw [UInt16.toNat_toUInt32, UInt32.toNat_toUInt16, hsum]
      exact Nat.mod_eq_of_lt (by omega)
    rw [yearLoop]
    by_cases hlast : year.toNat = y
    · -- the day lies in this year
      have hlt := h.lt_start_succ
      rw [if_neg (by rw [UInt32.le_iff_toNat_le, hcast, hlast]; omega)]
      rw [← hlast, UInt8.ofNat_toNat, ← hsum, UInt32.ofNat_toNat]
    · have hyear : (year + 1).toNat = year.toNat + 1 := by
        rw [UInt8.toNat_add, UInt8.toNat_one]
        omega
      have hstart := start_mono (yearLength LEAP_YEAR) (show year.toNat + 1 ≤ y by omega)
      have hbegin := h.start_le
      rw [if_pos (by rw [UInt32.le_iff_toNat_le, hcast]; omega)]
      exact ih _ _ (by omega) (by omega) (by rw [hsum, hyear])

/-- Thirty-two bits of seconds hold fewer than 49711 days, which end in year 136. -/
lemma year_le {n y k : ℕ} (h : At (yearLength LEAP_YEAR) n y k) (hn : n < 49711) : y ≤ 136 := by
  have hlow := (start_bounds (yearLength_bounds LEAP_YEAR) y).1
  have hle := h.start_le
  omega

/-- So the loop always ends, after at most 137 turns. -/
lemma yearLoop_eq_some {time : UInt32} {y k : ℕ} (h : At (yearLength LEAP_YEAR) time.toNat y k)
    (htime : time.toNat < 49711) :
    yearLoop time 256 0 0 =
      some (UInt8.ofNat y, UInt32.ofNat (start (yearLength LEAP_YEAR) (y + 1))) := by
  have hy := year_le h htime
  have hend := (start_bounds (yearLength_bounds LEAP_YEAR) (y + 1)).2
  exact yearLoop_eq h (by omega) (by omega) 256 0 0 (Nat.zero_le y)
    (by rw [UInt8.toNat_zero]; omega) rfl

lemma toNat_monthLength {leap : Bool} {month : UInt8} (h : month.toNat < 12) :
    (monthLength leap month).toNat = Calendar.monthLength leap month.toNat := by
  unfold monthLength
  split
  · next hfeb =>
    rw [hfeb]
    cases leap <;> rfl
  · next hfeb =>
    have hne : month.toNat ≠ 1 := fun h1 => hfeb (UInt8.toNat_inj.mp h1)
    generalize month.toNat = m at h hne
    interval_cases m <;> first | rfl | exact absurd rfl hne

/-- The loop ends in the month of the day. -/
lemma monthLoop_eq {leap : Bool} {k i r : ℕ} (h : At (Calendar.monthLength leap) k i r)
    (hi : i < 12) :
    ∀ (left : ℕ) (month : UInt8) (time : UInt32), month.toNat ≤ i → i < month.toNat + left →
      start (Calendar.monthLength leap) month.toNat + time.toNat = k →
      monthLoop leap left month time = (UInt8.ofNat i, UInt32.ofNat r) := by
  intro left
  induction left with
  | zero =>
    intro month time h1 h2
    omega
  | succ left ih =>
    intro month time hle hleft htime
    have hlen : (monthLength leap month).toNat = Calendar.monthLength leap month.toNat :=
      toNat_monthLength (by omega)
    have hsucc := start_succ (Calendar.monthLength leap) month.toNat
    have heq := h.eq
    rw [monthLoop]
    by_cases hlast : month.toNat = i
    · -- the day lies in this month
      have hlt := h.lt
      rw [← hlast] at heq hlt
      have hr : time.toNat = r := by omega
      rw [if_neg (by rw [UInt32.le_iff_toNat_le, UInt8.toNat_toUInt32, hlen]; omega), ← hlast,
        ← hr, UInt8.ofNat_toNat, UInt32.ofNat_toNat]
    · have hmonth : (month + 1).toNat = month.toNat + 1 := by
        rw [UInt8.toNat_add, UInt8.toNat_one]
        omega
      have hstart := start_mono (Calendar.monthLength leap) (show month.toNat + 1 ≤ i by omega)
      have hge : (monthLength leap month).toUInt32 ≤ time := by
        rw [UInt32.le_iff_toNat_le, UInt8.toNat_toUInt32, hlen]
        omega
      rw [if_pos hge]
      refine ih _ _ (by omega) (by omega) ?_
      rw [UInt32.toNat_sub_of_le _ _ hge, UInt8.toNat_toUInt32, hlen, hmonth]
      rw [UInt32.le_iff_toNat_le, UInt8.toNat_toUInt32, hlen] at hge
      omega

/-- The day of a 32-bit time. -/
lemma toNat_day (t : UInt32) : (t / 60 / 60 / 24).toNat = t.toNat / 86400 := by
  simp only [UInt32.toNat_div, UInt32.reduceToNat, Nat.div_div_eq_div_mul]

lemma day_lt (t : UInt32) : t.toNat / 86400 < 49711 := by
  have := t.toNat_lt
  omega

/-- The loop finds a year for every 32-bit time. -/
lemma yearLoop_isSome (t : UInt32) : (yearLoop (t / 60 / 60 / 24) 256 0 0).isSome := by
  obtain ⟨y, k, h⟩ := exists_at (yearLength_pos LEAP_YEAR) (t / 60 / 60 / 24).toNat
  rw [yearLoop_eq_some h (by rw [toNat_day]; exact day_lt t)]
  rfl

/-- Break a time into its components. -/
def breakTime (timeInput : UInt32) : tmElements_t :=
  let time := timeInput
  let Second := time % 60
  let time := time / 60 -- now it is minutes
  let Minute := time % 60
  let time := time / 60 -- now it is hours
  let Hour := time % 24
  let time := time / 24 -- now it is days
  let year := (yearLoop time 256 0 0).get (yearLoop_isSome timeInput)
  let days := year.2 - daysOf year.1
  let month := monthLoop (LEAP_YEAR year.1.toNat) 12 0 (time - days)
  { Second := Second.toUInt8
    Minute := Minute.toUInt8
    Hour := Hour.toUInt8
    Wday := ((time + 4) % 7 + 1).toUInt8 -- Sunday is day 1
    Day := (month.2 + 1).toUInt8
    Month := month.1 + 1
    Year := year.1 }

/-- The number of a day of the week, from 1 for Sunday: day 0 was a Thursday. -/
def weekdayOf (n : ℕ) : ℕ := (n + 4) % 7 + 1

/-- A remainder that fits into eight bits. -/
lemma toNat_toUInt8_mod {a b : UInt32} (hpos : 0 < b.toNat) (hb : b.toNat ≤ 256) :
    (a % b).toUInt8.toNat = a.toNat % b.toNat := by
  have hlt := Nat.mod_lt a.toNat hpos
  rw [UInt32.toNat_toUInt8, UInt32.toNat_mod, Nat.mod_eq_of_lt (by omega)]

/-- The date that `breakTime` finds. -/
lemma breakTime_fallsOn (t : UInt32) :
    (breakTime t).reading.toDate.FallsOn LEAP_YEAR (t.toNat / 86400) := by
  obtain ⟨y, k, hy⟩ := exists_at (yearLength_pos LEAP_YEAR) (t / 60 / 60 / 24).toNat
  obtain ⟨i, r, hm⟩ := exists_at (monthLength_pos (LEAP_YEAR y)) k
  have hday : (t / 60 / 60 / 24).toNat < 49711 := by
    rw [toNat_day]
    exact day_lt t
  have hfalls := Date.FallsOn.of_at hy hm
  have hvalid := hfalls.valid
  have hi : i < 12 := hvalid.month.2
  have hr : r < 31 := lt_of_lt_of_le hm.lt (monthLength_bounds _ _).2
  have hyear := year_le hy hday
  have hyearNat : (UInt8.ofNat y).toNat = y := by
    rw [UInt8.toNat_ofNat']
    omega
  -- the first day of the year, and the day of the year
  have hfirst : (UInt32.ofNat (start (yearLength LEAP_YEAR) (y + 1)) -
      daysOf (UInt8.ofNat y)).toNat = start (yearLength LEAP_YEAR) y := by
    have hend := (start_bounds (yearLength_bounds LEAP_YEAR) (y + 1)).2
    have hsucc := start_succ (yearLength LEAP_YEAR) y
    have hnat : (UInt32.ofNat (start (yearLength LEAP_YEAR) (y + 1))).toNat =
        start (yearLength LEAP_YEAR) (y + 1) := by
      rw [UInt32.toNat_ofNat']
      exact Nat.mod_eq_of_lt (by omega)
    rw [UInt32.toNat_sub_of_le, hnat, toNat_daysOf, hyearNat]
    · omega
    · rw [UInt32.le_iff_toNat_le, hnat, toNat_daysOf, hyearNat]
      omega
  have hrest : (t / 60 / 60 / 24 - (UInt32.ofNat (start (yearLength LEAP_YEAR) (y + 1)) -
      daysOf (UInt8.ofNat y))).toNat = k := by
    have hle := hy.start_le
    have heq := hy.eq
    rw [UInt32.toNat_sub_of_le _ _ (by rw [UInt32.le_iff_toNat_le, hfirst]; exact hle), hfirst]
    omega
  have hmonth := monthLoop_eq hm hi 12 0 _ (Nat.zero_le i) (by rw [UInt8.toNat_zero]; omega)
    (by rw [UInt8.toNat_zero, start_zero, Nat.zero_add]; exact hrest)
  have hdate : (breakTime t).reading.toDate = ⟨y, i + 1, r + 1⟩ := by
    unfold breakTime tmElements_t.reading
    simp only [yearLoop_eq_some hy hday, Option.get_some, hyearNat, hmonth]
    refine Date.ext rfl ?_ ?_ <;> dsimp only
    · rw [UInt8.toNat_add, UInt8.toNat_ofNat', UInt8.toNat_one]
      omega
    · rw [UInt32.toNat_toUInt8, UInt32.toNat_add, UInt32.toNat_ofNat', UInt32.toNat_one]
      omega
  rw [hdate, ← toNat_day]
  exact hfalls

/-- `breakTime` reads the Gregorian calendar. -/
theorem breakTime_shows (t : UInt32) : (breakTime t).reading.Shows LEAP_YEAR t.toNat := by
  refine ⟨breakTime_fallsOn t, ?_, ?_, ?_⟩
  · show (t / 60 / 60 % 24).toUInt8.toNat = _
    rw [toNat_toUInt8_mod (by decide) (by decide)]
    simp only [UInt32.toNat_div, UInt32.reduceToNat, Nat.div_div_eq_div_mul]
  · show (t / 60 % 60).toUInt8.toNat = _
    rw [toNat_toUInt8_mod (by decide) (by decide)]
    simp only [UInt32.toNat_div, UInt32.reduceToNat]
  · show (t % 60).toUInt8.toNat = _
    exact toNat_toUInt8_mod (by decide) (by decide)

/-- The day of the week depends on the day only. -/
lemma breakTime_Wday (t : UInt32) :
    (breakTime t).Wday.toNat = weekdayOf (t.toNat / 86400) := by
  have hday := day_lt t
  rw [← toNat_day] at hday
  show ((t / 60 / 60 / 24 + 4) % 7 + 1).toUInt8.toNat = _
  rw [UInt32.toNat_toUInt8, UInt32.toNat_add, UInt32.toNat_mod, UInt32.toNat_add, weekdayOf,
    ← toNat_day]
  simp only [UInt32.reduceToNat]
  omega

/-! ## `makeTime` -/

/-- The first `for` loop: a day more for every leap year before the given year. -/
def addLeapDays (Year : ℕ) (seconds : UInt32) : UInt32 :=
  (List.range Year).foldl
    (fun seconds i => if LEAP_YEAR i then seconds + SECS_PER_DAY else seconds) seconds

/-- The second `for` loop: the months before the given month, from 1 on. -/
def addMonths (leap : Bool) (Month : ℕ) (seconds : UInt32) : UInt32 :=
  (List.range' 1 (Month - 1)).foldl
    (fun seconds i =>
      if i = 2 ∧ leap then seconds + SECS_PER_DAY * 29
      else seconds + SECS_PER_DAY * (monthDays.getD (i - 1) 0).toUInt32) seconds

/-- Assemble the components into a time. -/
def makeTime (tm : tmElements_t) : UInt32 :=
  let seconds := tm.Year.toUInt32 * (SECS_PER_DAY * 365)
  let seconds := addLeapDays tm.Year.toNat seconds
  let seconds := addMonths (LEAP_YEAR tm.Year.toNat) tm.Month.toNat seconds
  let seconds := seconds + (tm.Day.toUInt32 - 1) * SECS_PER_DAY
  let seconds := seconds + tm.Hour.toUInt32 * SECS_PER_HOUR
  let seconds := seconds + tm.Minute.toUInt32 * SECS_PER_MIN
  seconds + tm.Second.toUInt32

/-- Years are 365 days long and leap years a day longer. -/
lemma start_yearLength (Year : ℕ) :
    start (yearLength LEAP_YEAR) Year =
      365 * Year + start (fun i => if LEAP_YEAR i then 1 else 0) Year := by
  rw [← start_const, ← start_fun_add]
  refine start_congr fun i _ => ?_
  unfold yearLength
  split <;> rfl

lemma addLeapDays_eq (Year : ℕ) (seconds : UInt32) :
    addLeapDays Year seconds = seconds +
      SECS_PER_DAY * UInt32.ofNat (start (fun i => if LEAP_YEAR i then 1 else 0) Year) := by
  unfold addLeapDays
  induction Year with
  | zero => exact (UInt32.add_zero seconds).symm
  | succ Year ih =>
    rw [List.range_succ, List.foldl_append, ih, start_succ, List.foldl_cons, List.foldl_nil]
    split
    · rw [UInt32.ofNat_add, UInt32.mul_add, UInt32.add_assoc]
      rfl
    · rfl

lemma addMonths_eq (leap : Bool) {Month : ℕ} (h : Month ≤ 12) (seconds : UInt32) :
    addMonths leap Month seconds = seconds +
      SECS_PER_DAY * UInt32.ofNat (start (Calendar.monthLength leap) (Month - 1)) := by
  unfold addMonths
  generalize hm : Month - 1 = m
  have hlt : m < 12 := by omega
  clear hm h
  induction m with
  | zero => exact (UInt32.add_zero seconds).symm
  | succ m ih =>
    rw [List.range'_concat, List.foldl_append, ih (by omega), start_succ, List.foldl_cons,
      List.foldl_nil, UInt32.ofNat_add, UInt32.mul_add, ← UInt32.add_assoc]
    have hlen : (if 1 + 1 * m = 2 ∧ leap then (29 : UInt32)
        else (monthDays.getD (1 + 1 * m - 1) 0).toUInt32) =
          UInt32.ofNat (Calendar.monthLength leap m) := by
      have hm : m < 11 := by omega
      interval_cases m <;> cases leap <;> rfl
    rw [← hlen]
    split <;> rfl

/-- `makeTime` computes the second of a reading. -/
theorem makeTime_of_shows {tm : tmElements_t} {n : ℕ} (h : tm.reading.Shows LEAP_YEAR n) :
    makeTime tm = UInt32.ofNat n := by
  have hmonth := h.date.valid.month
  have hday := h.date.valid.day
  have heq := h.date.eq
  have hn := h.eq_secondOf
  simp only [tmElements_t.reading] at hmonth hday heq hn
  rw [start_yearLength] at heq
  unfold makeTime
  dsimp only
  rw [addMonths_eq _ hmonth.2, addLeapDays_eq]
  simp only [← UInt32.ofNat_uInt8ToNat, SECS_PER_DAY, SECS_PER_HOUR, SECS_PER_MIN]
  -- all of it is the reduction of one sum modulo 2 ^ 32
  have hone : UInt32.ofNat tm.Day.toNat - 1 = UInt32.ofNat (tm.Day.toNat - 1) :=
    (UInt32.ofNat_sub hday.1).symm
  rw [hone, hn, Reading.secondOf, heq]
  simp only [UInt32.ofNat_add, UInt32.ofNat_mul]
  grind

/-- A time is assembled again from its components, whatever the day of the week. -/
lemma makeTime_breakTime_with (t : UInt32) (Wday : UInt8) :
    makeTime { breakTime t with Wday := Wday } = t := by
  have hshows : tmElements_t.reading { breakTime t with Wday := Wday } =
      (breakTime t).reading := rfl
  rw [makeTime_of_shows (hshows ▸ breakTime_shows t), UInt32.ofNat_toNat]

end Time
end ArduinoProjects
