import ArduinoProjects.Time.RoundTrip
import ArduinoProjects.RTClib.TimeSpan

/-!
# `RTCx::gmtime_r`

The third clock library counts signed seconds from 1970 and breaks them into a `struct tm`.
It cuts the time into four-year blocks, the third year of each of which is a leap year. In
every block it takes the last day of that leap year for the first day of the next year
(`gmtime_r_shows`), and before 1970 it reads past its table of months at the beginning of a
block (`gmtime_r_eq_none_iff`).
-/

namespace ArduinoProjects.RTCx

open Util Util.Calendar

/-- The `int` fields, without the daylight savings flag that nothing uses. They are integers
here; where the value assigned to one may not fit into the 16 bits of an `int`, the assignment
cuts it. -/
structure tm where
  tm_sec : ℤ
  tm_min : ℤ
  tm_hour : ℤ
  tm_mday : ℤ
  /-- Counted from 0. -/
  tm_mon : ℤ
  /-- Counted from 1900. -/
  tm_year : ℤ
  tm_wday : ℤ
  tm_yday : ℤ
deriving DecidableEq

/-- A day. -/
def SECS_PER_DAY : ℤ := 86400

/-- A block of four years. -/
def SECS_PER_4_YEARS : ℤ := SECS_PER_DAY * (366 + 365 + 365 + 365)

/-- Since year is > 1900 and < 2100 can use simple method. -/
def isLeapYear (year : UInt16) : Bool := year % 4 == 0

/-- A month behind the table has no length. -/
def daysInMonth (year : UInt16) (month : UInt8) : Option UInt8 :=
  if month = 2 ∧ isLeapYear year then some 29
  else [0, 31, 28, 31, 30, 31, 30, 31, 31, 30, 31, 30, 31][month.toNat]?

/-! ## `gmtime_r` -/

/-- The four-year blocks since 1970. -/
def fourYearsOf (t : ℤ) : ℤ :=
  let fourYears := (Int8.ofInt (t.tdiv SECS_PER_4_YEARS)).toInt
  -- now remaining time will be positive and must add
  if t < 0 then fourYears - 1 else fourYears

/-- The `while` loop over the years. -/
def yearLoop : ℕ → ℤ → ℤ → Option (ℤ × ℤ)
  | 0, _, _ => none
  | fuel + 1, days, year =>
    if days ≥ 365 then yearLoop fuel (days - 365) (year + 1) else some (days, year)

/-- The day of the year and the year of a day in a block. -/
def yearOf (days year : ℤ) : Option (ℤ × ℤ) :=
  if days ≥ 365 + 365 + 366 then some (days - (365 + 365 + 366), year + 3)
  else yearLoop 4 days year

/-- The loop over the months; the table has 13 entries. -/
def monthLoop (year : ℤ) : ℕ → ℤ → ℤ → Option (ℤ × ℤ)
  | 0, _, _ => none
  | fuel + 1, mon, mday =>
    (daysInMonth (UInt16.ofInt (year + 1900)) (UInt8.ofInt (mon + 1))).bind fun dim =>
      if mday > dim.toNat then monthLoop year fuel (mon + 1) (mday - dim.toNat)
      else some (mon, mday)

/-- It has no result if it reads past the table of months. -/
def gmtime_r (timep : Int32) : Option tm :=
  let t := timep.toInt
  let fourYears := fourYearsOf t
  let t := t - fourYears * SECS_PER_4_YEARS
  -- split t into seconds in day and days remaining
  let days := (Int16.ofInt (t.tdiv SECS_PER_DAY)).toInt
  let partialDay_s := t.tmod SECS_PER_DAY
  let partialDay_m := (Int16.ofInt (partialDay_s.tdiv 60)).toInt
  (yearOf days (fourYears * 4 + (1970 - 1900))).bind fun (days, year) =>
    (monthLoop year 13 0 (1 + days)).map fun (mon, mday) =>
      { tm_sec := partialDay_s.tmod 60
        tm_min := partialDay_m.tmod 60
        tm_hour := partialDay_m.tdiv 60
        tm_mday := mday
        tm_mon := mon
        tm_year := year
        tm_wday := ((UInt16.ofInt (timep.toInt.tdiv 86400) + 4) % 7).toNat
        tm_yday := days }

/-! ## The calendar of the library -/

/-- Every fourth year, counted from 1898: the years of the third block before 1906. -/
def leap (y : ℕ) : Bool := y % 4 == 2

/-- The fields as a reading; its years count from 1898. -/
def tm.reading (tm : tm) : Reading where
  year := (tm.tm_year + 2).toNat
  month := (tm.tm_mon + 1).toNat
  day := tm.tm_mday.toNat
  hour := tm.tm_hour.toNat
  minute := tm.tm_min.toNat
  second := tm.tm_sec.toNat

/-- A time counted from the beginning of 1898, eighteen blocks before 1970. -/
def second (t : Int32) : ℕ := (t.toInt + 18 * SECS_PER_4_YEARS).toNat

lemma second_eq (t : Int32) : (second t : ℤ) = t.toInt + 2272147200 := by
  have hle := t.le_toInt
  rw [second, SECS_PER_4_YEARS, SECS_PER_DAY]
  omega

lemma daysInMonth_eq {y m : ℕ} (hy : y < 60000) (hm : m < 12) :
    daysInMonth (UInt16.ofInt (y - 2 + 1900)) (UInt8.ofInt (m + 1)) =
      some (UInt8.ofNat (monthLength (leap y) m)) := by
  have hyear : UInt16.ofInt (y - 2 + 1900) = UInt16.ofNat (y + 1898) := by
    rw [UInt16.ofInt]
    congr 1
    omega
  have hleap : isLeapYear (UInt16.ofNat (y + 1898)) = leap y := by
    rw [Bool.eq_iff_iff, isLeapYear, leap, beq_iff_eq, beq_iff_eq, ← UInt16.toNat_inj,
      UInt16.toNat_mod, UInt16.toNat_ofNat']
    simp only [UInt16.reduceToNat]
    omega
  rw [hyear, daysInMonth, hleap]
  interval_cases m <;> cases leap y <;> rfl

lemma toNat_monthLength (b : Bool) (m : ℕ) :
    (UInt8.ofNat (monthLength b m)).toNat = monthLength b m := by
  have hle := (monthLength_bounds b m).2
  rw [UInt8.toNat_ofNat']
  omega

/-- The loop ends in the month of the day. -/
lemma monthLoop_eq {y k i r : ℕ} (hy : y < 60000) (h : At (monthLength (leap y)) k i r)
    (hi : i < 12) :
    ∀ (fuel m : ℕ) (mday : ℤ), m ≤ i → i < m + fuel →
      start (monthLength (leap y)) m + mday = k + 1 →
      monthLoop (y - 2) fuel m mday = some ((i : ℤ), (r : ℤ) + 1) := by
  intro fuel
  induction fuel with
  | zero =>
    intro m mday h1 h2
    omega
  | succ fuel ih =>
    intro m mday hle hfuel hday
    have hsucc := start_succ (monthLength (leap y)) m
    have heq := h.eq
    rw [monthLoop, daysInMonth_eq hy (by omega), Option.bind_some, toNat_monthLength]
    by_cases hlast : m = i
    · -- the day lies in this month
      have hlt := h.lt
      rw [hlast] at hday ⊢
      rw [if_neg (by omega)]
      congr 2
      omega
    · have hstart := start_mono (monthLength (leap y)) (show m + 1 ≤ i by omega)
      rw [if_pos (by omega)]
      exact_mod_cast ih (m + 1) (mday - monthLength (leap y) m) (by omega) (by omega)
        (by omega)

/-- A day behind the end of the year leads past the table. -/
lemma monthLoop_eq_none {y : ℕ} (hy : y < 60000) :
    ∀ (fuel m : ℕ) (mday : ℤ), m ≤ 12 →
      (yearLength leap y : ℤ) < start (monthLength (leap y)) m + mday →
      monthLoop (y - 2) fuel m mday = none := by
  intro fuel
  induction fuel with
  | zero => exact fun _ _ _ _ => rfl
  | succ fuel ih =>
    intro m mday hm hday
    rw [monthLoop]
    by_cases hend : m = 12
    · have hmonth : ¬ ((13 : UInt8) = 2 ∧ isLeapYear (UInt16.ofInt (y - 2 + 1900))) :=
        fun h => absurd h.1 (by decide)
      have hnone : daysInMonth (UInt16.ofInt (y - 2 + 1900)) (UInt8.ofInt ((12 : ℕ) + 1)) = none :=
        if_neg hmonth
      rw [hend, hnone]
      rfl
    · have hsucc := start_succ (monthLength (leap y)) m
      have hmono := start_mono (monthLength (leap y)) (show m + 1 ≤ 12 by omega)
      rw [start_monthLength_twelve] at hmono
      rw [daysInMonth_eq hy (by omega), Option.bind_some, toNat_monthLength, if_pos (by omega)]
      exact_mod_cast ih (m + 1) (mday - monthLength (leap y) m) (by omega) (by omega)

lemma yearLoop_eq {days : ℤ} (h : 0 ≤ days) :
    ∀ (fuel : ℕ) (year : ℤ), days < 365 * fuel →
      yearLoop fuel days year = some (days % 365, year + days / 365) := by
  intro fuel
  induction fuel generalizing days with
  | zero =>
    intro year hlt
    omega
  | succ fuel ih =>
    intro year hlt
    rw [yearLoop]
    by_cases hge : days ≥ 365
    · rw [if_pos hge, ih (by omega) (year + 1) (by push_cast at hlt; omega)]
      congr 2 <;> omega
    · rw [if_neg hge]
      congr 2 <;> omega

/-! ## Blocks of four years -/

/-- The days before a year: the third of every four is a leap year. -/
lemma start_yearLength (y : ℕ) : start (yearLength leap) y = 365 * y + (y + 1) / 4 := by
  induction y with
  | zero => rfl
  | succ y ih =>
    have hlen : yearLength leap y = if y % 4 = 2 then 366 else 365 := by
      unfold yearLength leap
      simp only [beq_iff_eq]
    rw [start_succ, ih, hlen]
    split <;> omega

/-- Only a negative multiple of a block is rounded to another block than the one it lies in. -/
lemma fourYearsOf_eq (t : Int32) :
    (t.toInt < 0 ∧ SECS_PER_4_YEARS ∣ t.toInt →
      fourYearsOf t.toInt = t.toInt / SECS_PER_4_YEARS - 1) ∧
    (¬ (t.toInt < 0 ∧ SECS_PER_4_YEARS ∣ t.toInt) →
      fourYearsOf t.toInt = t.toInt / SECS_PER_4_YEARS) := by
  have hlow := t.le_toInt
  have hhigh := t.toInt_lt
  have hS : SECS_PER_4_YEARS = 126230400 := rfl
  have hdiv := RTClib.TimeSpan.tdiv_tmod t.toInt (b := SECS_PER_4_YEARS) (by norm_num [hS])
  have hcast : (Int8.ofInt (t.toInt.tdiv SECS_PER_4_YEARS)).toInt =
      t.toInt.tdiv SECS_PER_4_YEARS := by
    rw [hS] at hdiv ⊢
    exact Int8.toInt_ofInt_of_le (by omega) (by omega)
  rw [fourYearsOf, hcast]
  rw [hS] at hdiv ⊢
  constructor
  · intro hneg
    rw [if_pos hneg.1]
    omega
  · intro hnot
    split <;> omega

/-- The year and the day of the year of the `days`-th day of block `b`, and those that the
library finds. -/
lemma yearOf_eq {b : ℕ} {days : ℤ} (h : 0 ≤ days ∧ days < 1461) :
    ∃ y k : ℕ, At (yearLength leap) (1461 * b + if days = 1095 then 1096 else days.toNat) y k ∧
      yearOf days (4 * b - 2) = some ((k : ℤ), (y : ℤ) - 2) := by
  have hlen (i : ℕ) : yearLength leap i = if i % 4 = 2 then 366 else 365 := by
    unfold yearLength leap
    simp only [beq_iff_eq]
  unfold yearOf
  by_cases hfourth : days ≥ 365 + 365 + 366
  · rw [if_pos hfourth, if_neg (by omega)]
    refine ⟨4 * b + 3, days.toNat - 1096, ⟨?_, ?_⟩, ?_⟩
    · rw [hlen]
      split <;> omega
    · rw [start_yearLength]
      omega
    · congr 2 <;> omega
  · rw [if_neg hfourth, yearLoop_eq h.1 4 _ (by omega)]
    refine ⟨4 * b + days.toNat / 365, days.toNat % 365, ⟨?_, ?_⟩, ?_⟩
    · rw [hlen]
      split <;> omega
    · rw [start_yearLength]
      split <;> omega
    · congr 2 <;> omega

/-! ## What the library finds -/

/-- The day that the library finds for a time. -/
def dayFound (t : Int32) : ℕ :=
  if second t / 86400 % 1461 = 1095 then second t / 86400 + 1 else second t / 86400

/-- The day of the week, which is right from 1970 on. -/
def weekdayFound (t : Int32) : ℤ := ((UInt16.ofInt (t.toInt.tdiv 86400) + 4) % 7).toNat

/-- The fields of the day at offset `r` of month `i`, which is day `k` of year `y`, at the time
of day of second `n`. -/
def fieldsAt (y k i r n : ℕ) (wday : ℤ) : tm where
  tm_sec := (n % 60 : ℕ)
  tm_min := (n / 60 % 60 : ℕ)
  tm_hour := (n / 3600 % 24 : ℕ)
  tm_mday := r + 1
  tm_mon := i
  tm_year := y - 2
  tm_wday := wday
  tm_yday := k

lemma fieldsAt_shows {y k i r n m : ℕ} (hy : At (yearLength leap) (m / 86400) y k)
    (hm : At (monthLength (leap y)) k i r) (htime : m % 86400 = n % 86400) (wday : ℤ) :
    (fieldsAt y k i r n wday).reading.Shows leap m := by
  have hdate : (fieldsAt y k i r n wday).reading.toDate = ⟨y, i + 1, r + 1⟩ := by
    refine Date.ext ?_ ?_ ?_ <;> simp only [tm.reading, fieldsAt] <;> omega
  refine ⟨hdate ▸ .of_at hy hm, ?_, ?_, ?_⟩ <;> simp only [tm.reading, fieldsAt] <;> omega

lemma gmtime_r_eq {t : Int32} (h : ¬ (t.toInt < 0 ∧ SECS_PER_4_YEARS ∣ t.toInt)) :
    ∃ y k i r, At (yearLength leap) (dayFound t) y k ∧ At (monthLength (leap y)) k i r ∧
      y < 60000 ∧ i < 12 ∧
      gmtime_r t = some (fieldsAt y k i r (second t) (weekdayFound t)) := by
  have hlow := t.le_toInt
  have hhigh := t.toInt_lt
  have hS : SECS_PER_4_YEARS = 126230400 := rfl
  have hsecond := second_eq t
  -- the block, the day in it and the second of the day
  have hrest : t.toInt - t.toInt / SECS_PER_4_YEARS * SECS_PER_4_YEARS =
      (second t % 126230400 : ℕ) := by
    rw [hS]
    omega
  have hblock : t.toInt / SECS_PER_4_YEARS * 4 + (1970 - 1900) =
      4 * (second t / 126230400 : ℕ) - 2 := by
    rw [hS]
    omega
  have hdays : (Int16.ofInt (((second t % 126230400 : ℕ) : ℤ).tdiv SECS_PER_DAY)).toInt =
      (second t / 86400 % 1461 : ℕ) := by
    rw [SECS_PER_DAY, Int.tdiv_eq_ediv_of_nonneg (by omega),
      Int16.toInt_ofInt_of_le (by omega) (by omega)]
    omega
  have hday : ((second t % 126230400 : ℕ) : ℤ).tmod SECS_PER_DAY = (second t % 86400 : ℕ) := by
    rw [SECS_PER_DAY, Int.tmod_eq_emod_of_nonneg (by omega)]
    omega
  have hminutes : (Int16.ofInt (((second t % 86400 : ℕ) : ℤ).tdiv 60)).toInt =
      (second t % 86400 / 60 : ℕ) := by
    rw [Int.tdiv_eq_ediv_of_nonneg (by omega), Int16.toInt_ofInt_of_le (by omega) (by omega)]
    omega
  have hinside : (0 : ℤ) ≤ (second t / 86400 % 1461 : ℕ) ∧
      ((second t / 86400 % 1461 : ℕ) : ℤ) < 1461 := by omega
  obtain ⟨y, k, hy, hyear⟩ := yearOf_eq (b := second t / 126230400) hinside
  obtain ⟨i, r, hm⟩ := exists_at (monthLength_pos (leap y)) k
  have hi : i < 12 := (Date.FallsOn.of_at hy hm).valid.month.2
  have hylt : y < 60000 := by
    have hle := hy.start_le
    rw [start_yearLength] at hle
    split at hle <;> omega
  have hfound : dayFound t = 1461 * (second t / 126230400) +
      if ((second t / 86400 % 1461 : ℕ) : ℤ) = 1095 then 1096
      else ((second t / 86400 % 1461 : ℕ) : ℤ).toNat := by
    unfold dayFound
    split <;> split <;> omega
  have hmonth := monthLoop_eq hylt hm hi 13 0 (1 + k) (Nat.zero_le i) (by omega)
    (by rw [start_zero]; omega)
  refine ⟨y, k, i, r, hfound ▸ hy, hm, hylt, hi, ?_⟩
  rw [gmtime_r]
  dsimp only
  rw [(fourYearsOf_eq t).2 h, hrest, hblock, hdays, hday, hminutes, hyear, Option.bind_some]
  dsimp only
  rw [Nat.cast_zero] at hmonth
  rw [hmonth, Option.map_some]
  congr 1
  rw [fieldsAt, tm.mk.injEq]
  refine ⟨?_, ?_, ?_, rfl, rfl, rfl, rfl, rfl⟩
  · rw [Int.tmod_eq_emod_of_nonneg (by omega)]
    omega
  · rw [Int.tmod_eq_emod_of_nonneg (by omega)]
    omega
  · rw [Int.tdiv_eq_ediv_of_nonneg (by omega)]
    omega

/-- The beginning of a block before 1970 is taken for the 366th day of a common year. -/
lemma gmtime_r_eq_none {t : Int32} (h : t.toInt < 0 ∧ SECS_PER_4_YEARS ∣ t.toInt) :
    gmtime_r t = none := by
  have hlow := t.le_toInt
  have hS : SECS_PER_4_YEARS = 126230400 := rfl
  have hfour := (fourYearsOf_eq t).1 h
  obtain ⟨hneg, b, hb⟩ := h
  rw [hS] at hb
  have hquot : t.toInt / SECS_PER_4_YEARS = b := by
    rw [hb, hS, mul_comm]
    exact Int.mul_ediv_cancel _ (by norm_num)
  have hrest : t.toInt - (b - 1) * SECS_PER_4_YEARS = 126230400 := by
    rw [hb, hS]
    ring
  have hyear : (b - 1) * 4 + (1970 - 1900) + 3 = ((4 * (b + 18) - 1).toNat : ℤ) - 2 := by omega
  have hcommon : yearLength leap (4 * (b + 18) - 1).toNat = 365 := by
    unfold yearLength leap
    rw [if_neg]
    rw [beq_iff_eq]
    omega
  have hnone := monthLoop_eq_none (y := (4 * (b + 18) - 1).toNat) (by omega) 13 0 366
    (by norm_num) (by rw [hcommon, start_zero]; norm_num)
  rw [gmtime_r]
  dsimp only
  rw [hfour, hquot, hrest]
  have hdays : (Int16.ofInt (Int.tdiv 126230400 SECS_PER_DAY)).toInt = 1461 := rfl
  rw [hdays, yearOf, if_pos (by norm_num), Option.bind_some]
  dsimp only
  rw [hyear]
  exact congrArg (Option.map _) hnone

lemma dayFound_shows {t : Int32} {y k i r : ℕ} (hy : At (yearLength leap) (dayFound t) y k)
    (hm : At (monthLength (leap y)) k i r) :
    (fieldsAt y k i r (second t) (weekdayFound t)).reading.Shows leap
      (dayFound t * 86400 + second t % 86400) := by
  refine fieldsAt_shows ?_ hm (by omega) _
  have hday : (dayFound t * 86400 + second t % 86400) / 86400 = dayFound t := by omega
  rwa [hday]

/-- A time is broken correctly iff it is not the beginning of a block before 1970 and does not
lie on the last day of a leap year. -/
theorem gmtime_r_shows_iff (t : Int32) :
    (∃ r, gmtime_r t = some r ∧ r.reading.Shows leap (second t)) ↔
      ¬ (t.toInt < 0 ∧ SECS_PER_4_YEARS ∣ t.toInt) ∧ second t / 86400 % 1461 ≠ 1095 := by
  by_cases hblock : t.toInt < 0 ∧ SECS_PER_4_YEARS ∣ t.toInt
  · rw [gmtime_r_eq_none hblock]
    exact iff_of_false (fun ⟨r, hr, _⟩ => by cases hr) fun h => h.1 hblock
  · obtain ⟨y, k, i, r, hy, hm, -, -, heq⟩ := gmtime_r_eq hblock
    have hshows := dayFound_shows hy hm
    rw [heq]
    constructor
    · rintro ⟨r', hr', hright⟩
      cases hr'
      have hsame := hshows.second_unique hright
      refine ⟨hblock, fun hlast => ?_⟩
      rw [dayFound, if_pos hlast] at hsame
      omega
    · intro ⟨_, hlast⟩
      refine ⟨_, rfl, ?_⟩
      rw [dayFound, if_neg hlast] at hshows
      have hsecond : second t / 86400 * 86400 + second t % 86400 = second t := by omega
      rwa [hsecond] at hshows

/-- 31 December 2016 is taken for 1 January 2017. -/
example : (gmtime_r 1483185600).map tm.reading = some ⟨⟨119, 1, 1⟩, 12, 0, 0⟩ := by
  decide +kernel

/-! ## The Time library -/

/-- The fields with the years counted from 1970, as the Time library counts them. -/
def tm.since1970 (tm : tm) : Reading := { tm.reading with year := tm.reading.year - 72 }

lemma LEAP_YEAR_eq : ∀ y < 69, Time.LEAP_YEAR y = leap (72 + y) := by decide +kernel

/-- The days before a year, from the block before all times and from 1970. -/
lemma start_years : ∀ y < 69,
    start (yearLength leap) (72 + y) = 26298 + start (yearLength Time.LEAP_YEAR) y := by
  decide +kernel

/-- From 1970 to 2038 the calendars are the same. -/
lemma shows_since1970 {R : Reading} {t : ℕ} (ht : t < 2 ^ 31)
    (h : R.Shows leap (t + 2272147200)) :
    72 ≤ R.year ∧ Reading.Shows Time.LEAP_YEAR { R with year := R.year - 72 } t := by
  have hday : (t + 2272147200) / 86400 = t / 86400 + 26298 := by omega
  have hdate := h.date
  rw [hday] at hdate
  have hle := hdate.at_year.start_le
  have hlt := hdate.at_year.lt_start_succ
  rw [start_yearLength] at hle hlt
  have hyear : 72 + (R.year - 72) = R.year := by omega
  have hleap := LEAP_YEAR_eq (R.year - 72) (by omega)
  have hstart := start_years (R.year - 72) (by omega)
  rw [hyear] at hleap hstart
  have heq := hdate.eq
  have hhour := h.hour
  have hminute := h.minute
  have hsecond := h.second
  refine ⟨by omega, ⟨⟨hdate.valid.month, ?_⟩, ?_⟩, ?_, ?_, ?_⟩ <;> dsimp only
  · rw [hleap]
    exact hdate.valid.day
  · rw [hleap]
    omega
  · omega
  · omega
  · omega

lemma toNat_toUInt32 {t : Int32} (h : 0 ≤ t.toInt) : (t.toUInt32.toNat : ℤ) = t.toInt := by
  have hle : (0 : Int32) ≤ t := Int32.le_iff_toInt_le.mpr h
  rw [Int32.toNat_toUInt32_of_le hle, Int32.toNatClampNeg, Int.toNat_of_nonneg h]

/-- 1 January 1970 was a Thursday. -/
lemma weekdayFound_eq {t : Int32} (h : 0 ≤ t.toInt) :
    weekdayFound t + 1 = Time.weekdayOf (t.toUInt32.toNat / 86400) := by
  have hnat := toNat_toUInt32 h
  have hhigh := t.toInt_lt
  have hday : t.toInt.tdiv 86400 = (t.toUInt32.toNat / 86400 : ℕ) := by
    rw [Int.tdiv_eq_ediv_of_nonneg h]
    omega
  have hcast : (UInt16.ofInt (t.toInt.tdiv 86400)).toNat = t.toUInt32.toNat / 86400 := by
    rw [hday, UInt16.ofInt, UInt16.toNat_ofNat']
    omega
  rw [weekdayFound, UInt16.toNat_mod, UInt16.toNat_add, hcast, Time.weekdayOf]
  simp only [UInt16.reduceToNat]
  omega

end ArduinoProjects.RTCx
