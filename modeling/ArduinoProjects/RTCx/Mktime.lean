import ArduinoProjects.RTCx.Gmtime

/-!
# `RTCx::mktime`

The way back takes fields that need not be a date and time of day: too many seconds are carried
into the minutes, too many days into the months. From 1970 on it returns the second that the
fields name and leaves in them what the Time library finds for that second (`mktime_eq`), so it
undoes `gmtime_r` wherever that is right (`mktime_gmtime_r_iff`).
-/

namespace ArduinoProjects.RTCx

open Util Util.Calendar

/-- What an `int` of 16 bits keeps of a value. -/
def int (x : ℤ) : ℤ := (Int16.ofInt x).toInt

/-- What is left in a field of units that come `n` to the next one, and the next field with the
carry. -/
def carry (n x next : ℤ) : ℤ × ℤ :=
  let next := int (next + x.tdiv n)
  if x.tmod n < 0 then (x.tmod n + n, int (next - 1)) else (x.tmod n, next)

/-- Normalise the time. -/
def normaliseTime (tm : tm) : RTCx.tm :=
  let (tm_sec, min) := carry 60 tm.tm_sec tm.tm_min
  let (tm_min, hour) := carry 60 min tm.tm_hour
  let (tm_hour, tm_mday) := carry 24 hour tm.tm_mday
  { tm with tm_sec, tm_min, tm_hour, tm_mday }

/-- `daysInMonth(tm->tm_year+1900, tm->tm_mon+1)` -/
def tm.dim (tm : tm) : Option UInt8 :=
  daysInMonth (UInt16.ofInt (tm.tm_year + 1900)) (UInt8.ofInt (tm.tm_mon + 1))

/-- A turn of the loop that takes a month off the days. -/
def tm.nextMonth (tm : tm) : RTCx.tm :=
  if tm.tm_mon + 1 = 12 then { tm with tm_mon := 0, tm_year := int (tm.tm_year + 1) }
  else { tm with tm_mon := tm.tm_mon + 1 }

/-- A turn of the loop that adds a month to the days. -/
def tm.previousMonth (tm : tm) : RTCx.tm :=
  if tm.tm_mon - 1 = -1 then { tm with tm_mon := 11, tm_year := int (tm.tm_year - 1) }
  else { tm with tm_mon := tm.tm_mon - 1 }

/-- Normalise the date. -/
def normaliseDate : ℕ → tm → Option tm
  | 0, _ => none
  | fuel + 1, tm =>
    tm.dim.bind fun dim =>
      if tm.tm_mday > dim.toNat then
        normaliseDate fuel { tm.nextMonth with tm_mday := tm.tm_mday - dim.toNat }
      else if tm.tm_mday < 1 then
        tm.previousMonth.dim.bind fun dim =>
          normaliseDate fuel { tm.previousMonth with tm_mday := tm.tm_mday + dim.toNat }
      else some tm

/-- `RTCx::dayOfYear`. -/
def dayOfYear (year : UInt16) (month day : UInt8) : Option UInt16 :=
  ((List.range' 1 (month.toNat - 1)).foldlM (fun doy m =>
    (daysInMonth year (UInt8.ofNat m)).map fun days => doy + days.toUInt16) 0).map fun doy =>
      doy + day.toUInt16

/-- The seconds of normalised fields. The years are multiplied in 16 bits, the minutes too. -/
def timeOf (tm : tm) : Int32 :=
  let yearsSinceEpoch := UInt8.ofInt (tm.tm_year + 1900 - 1970)
  Int32.ofInt ((Int16.ofInt (yearsSinceEpoch.toNat * 365)).toInt * SECS_PER_DAY
    -- leap days in whole 4 year period
    + (yearsSinceEpoch / 4).toNat * SECS_PER_DAY
    -- leap days in partial 4 year period
    + (if yearsSinceEpoch % 4 = 3 then SECS_PER_DAY else 0)
    + tm.tm_yday * SECS_PER_DAY + tm.tm_hour * 3600 + (UInt16.ofInt (tm.tm_min * 60)).toNat
    + tm.tm_sec)

/-- The return value and the caller's structure afterwards. -/
def mktime (tm : tm) : Option (Int32 × RTCx.tm) :=
  let tm := normaliseTime tm
  if tm.tm_mon < 0 ∨ tm.tm_mon > 11 ∨ tm.tm_mday < 1 then some (-1, tm)
  else
    (normaliseDate tm.tm_mday.toNat tm).bind fun tm =>
      (dayOfYear (UInt16.ofInt (tm.tm_year + 1900)) (UInt8.ofInt (tm.tm_mon + 1))
          (UInt8.ofInt tm.tm_mday)).map fun doy =>
        let tm := { tm with tm_yday := doy.toNat - 1 }
        let t := timeOf tm
        let daysSinceEpoch := UInt32.ofInt (t.toInt.tdiv SECS_PER_DAY)
        (t, { tm with tm_wday := ((daysSinceEpoch + 4) % 7).toNat })

/-! ## The time -/

/-- The values of an `int`. -/
def IsInt (x : ℤ) : Prop := -32768 ≤ x ∧ x ≤ 32767

lemma int_of_isInt {x : ℤ} (h : IsInt x) : int x = x :=
  Int16.toInt_ofInt_of_le (by norm_num; exact h.1) (by have := h.2; norm_num; omega)

/-- A carry that is corrected by one may wrap around and back. -/
lemma int_int_sub_one (x : ℤ) : int (int x - 1) = int (x - 1) := by
  rw [int, int, int, Int16.toInt_ofInt, Int16.toInt_ofInt, Int16.toInt_ofInt, Int.bmod_sub_bmod]

/-- What is left is never negative, and the carry is rounded down. -/
lemma carry_eq {n : ℤ} (hn : 0 < n) (x next : ℤ) :
    carry n x next = (x % n, int (next + x / n)) := by
  have hdiv := RTClib.TimeSpan.tdiv_tmod x hn
  have hunique (q r : ℤ) (h : r + n * q = x ∧ 0 ≤ r ∧ r < n) :
      (r, int (next + q)) = (x % n, int (next + x / n)) := by
    obtain ⟨hq, hr⟩ := (Int.ediv_emod_unique hn).mpr h
    rw [hq, hr]
  unfold carry
  dsimp only
  split
  · rw [int_int_sub_one, add_sub_assoc]
    apply hunique
    rw [mul_sub]
    omega
  · apply hunique
    omega

/-- No carry overflows an `int`. -/
structure Fits (x : tm) : Prop where
  min : IsInt (x.tm_min + x.tm_sec / 60)
  hour : IsInt (x.tm_hour + (x.tm_min + x.tm_sec / 60) / 60)
  mday : IsInt (x.tm_mday + (x.tm_hour + (x.tm_min + x.tm_sec / 60) / 60) / 24)

/-- The second since 1898 that fields name, if the month and the year are those of a date. -/
def named (tm : tm) : ℤ :=
  (((start (yearLength leap) (tm.tm_year + 2).toNat +
    start (monthLength (leap (tm.tm_year + 2).toNat)) tm.tm_mon.toNat + (tm.tm_mday - 1)) * 24 +
      tm.tm_hour) * 60 + tm.tm_min) * 60 + tm.tm_sec

lemma normaliseTime_eq {x : tm} (h : Fits x) :
    normaliseTime x = { x with
      tm_sec := named x % 60
      tm_min := named x / 60 % 60
      tm_hour := named x / 3600 % 24
      tm_mday := named x / 86400 - start (yearLength leap) (x.tm_year + 2).toNat -
        start (monthLength (leap (x.tm_year + 2).toNat)) x.tm_mon.toNat + 1 } := by
  rw [normaliseTime, carry_eq (by norm_num), int_of_isInt h.min]
  dsimp only
  rw [carry_eq (by norm_num), int_of_isInt h.hour]
  dsimp only
  rw [carry_eq (by norm_num), int_of_isInt h.mday, tm.mk.injEq]
  unfold named
  dsimp only
  refine ⟨?_, ?_, ?_, ?_, rfl, rfl, rfl, rfl⟩ <;> omega

/-! ## The date -/

lemma dim_eq {x : tm} {y m : ℕ} (hy : y < 60000) (hm : m < 12) (hyear : x.tm_year = y - 2)
    (hmon : x.tm_mon = m) : x.dim = some (UInt8.ofNat (monthLength (leap y) m)) := by
  rw [tm.dim, hyear, hmon]
  exact daysInMonth_eq hy hm

/-- The loop ends at the date of the day that the year, the month and the day name. -/
lemma normaliseDate_eq {D : Date} {n : ℕ} (hD : D.FallsOn leap n) (hyear : D.year < 30000) :
    ∀ (fuel : ℕ) (x : tm) (y m d : ℕ), x.tm_year = y - 2 → x.tm_mon = m → x.tm_mday = d →
      m < 12 → 1 ≤ d → d ≤ fuel →
      n = start (yearLength leap) y + start (monthLength (leap y)) m + (d - 1) →
      normaliseDate fuel x = some { x with
        tm_year := D.year - 2
        tm_mon := D.month - 1
        tm_mday := D.day } := by
  intro fuel
  induction fuel with
  | zero =>
    intro x y m d _ _ _ _ hpos hfuel
    omega
  | succ fuel ih =>
    intro x y m d hy hmon hd hm hpos hfuel hn
    have hle : y ≤ D.year := by
      have hlt := hD.at_year.lt_start_succ
      rw [start_yearLength] at hlt hn
      omega
    have hlen := monthLength_bounds (leap y) m
    have hsucc := start_succ (monthLength (leap y)) m
    rw [normaliseDate, dim_eq (by omega) hm hy hmon, Option.bind_some, toNat_monthLength, hd]
    by_cases hlong : (d : ℤ) > monthLength (leap y) m
    · rw [if_pos hlong]
      have hday : (d : ℤ) - monthLength (leap y) m = (d - monthLength (leap y) m : ℕ) := by omega
      unfold tm.nextMonth
      by_cases hdec : m = 11
      · -- from December to January
        have hyearLen := start_monthLength_twelve leap y
        have hnext := start_succ (yearLength leap) y
        subst hdec
        change start (monthLength (leap y)) 12 = _ at hsucc
        rw [if_pos (by omega)]
        have hnextYear : int (x.tm_year + 1) = ((y + 1 : ℕ) : ℤ) - 2 := by
          rw [int_of_isInt ⟨by omega, by omega⟩]
          omega
        exact ih _ (y + 1) 0 (d - monthLength (leap y) 11) hnextYear rfl hday
          (by norm_num) (by omega) (by omega) (by rw [start_zero]; omega)
      · rw [if_neg (by omega)]
        exact ih _ y (m + 1) (d - monthLength (leap y) m) hy (by rw [hmon]; push_cast; rfl) hday
          (by omega) (by omega) (by omega) (by omega)
    · rw [if_neg hlong, if_neg (by omega)]
      have hplace : Date.FallsOn leap ⟨y, m + 1, d⟩ n := by
        refine ⟨⟨⟨Nat.le_add_left 1 m, hm⟩, hpos, ?_⟩, hn⟩
        show d ≤ monthLength (leap y) m
        omega
      have hsame := hD.date_unique hplace
      have hmonth : ((m + 1 : ℕ) : ℤ) - 1 = m := by omega
      rw [hsame, hmonth, ← hy, ← hmon, ← hd]

/-! ## The day of the year -/

lemma ofInt_natCast (n : ℕ) : UInt8.ofInt n = UInt8.ofNat n := by
  rw [← UInt8.toNat_inj, UInt8.ofInt, UInt8.toNat_ofNat', UInt8.toNat_ofNat']
  omega

/-- The sum over the months before. -/
lemma foldlM_daysInMonth {y : ℕ} (hy : y < 60000) {m : ℕ} (hm : m ≤ 12) :
    (List.range' 1 m).foldlM (fun doy m =>
      (daysInMonth (UInt16.ofInt (y - 2 + 1900)) (UInt8.ofNat m)).map fun days =>
        doy + days.toUInt16) 0 = some (UInt16.ofNat (start (monthLength (leap y)) m)) := by
  induction m with
  | zero => rfl
  | succ m ih =>
    have hmonth : UInt8.ofNat (1 + 1 * m) = UInt8.ofInt ((m : ℤ) + 1) := by
      rw [← ofInt_natCast]
      congr 1
      omega
    have hdays : (UInt8.ofNat (monthLength (leap y) m)).toUInt16 =
        UInt16.ofNat (monthLength (leap y) m) := by
      have hle := (monthLength_bounds (leap y) m).2
      rw [← UInt16.toNat_inj, UInt8.toNat_toUInt16, toNat_monthLength, UInt16.toNat_ofNat']
      omega
    rw [List.range'_concat, List.foldlM_append, ih (by omega), Option.bind_eq_bind,
      Option.bind_some, List.foldlM_cons, hmonth, daysInMonth_eq hy (by omega), start_succ,
      UInt16.ofNat_add]
    exact congrArg (fun days => some (UInt16.ofNat (start (monthLength (leap y)) m) + days)) hdays

lemma dayOfYear_eq {y m d : ℕ} (hy : y < 60000) (hm : m < 12) (hd : d ≤ 31) :
    dayOfYear (UInt16.ofInt (y - 2 + 1900)) (UInt8.ofInt (m + 1)) (UInt8.ofInt d) =
      some (UInt16.ofNat (start (monthLength (leap y)) m + d)) := by
  have hmonth : (UInt8.ofInt ((m : ℤ) + 1)).toNat - 1 = m := by
    rw [show (m : ℤ) + 1 = ((m + 1 : ℕ) : ℤ) from rfl, ofInt_natCast, UInt8.toNat_ofNat']
    omega
  have hday : (UInt8.ofInt (d : ℤ)).toUInt16 = UInt16.ofNat d := by
    rw [← UInt16.toNat_inj, ofInt_natCast, UInt8.toNat_toUInt16, UInt8.toNat_ofNat',
      UInt16.toNat_ofNat']
    omega
  rw [dayOfYear, hmonth, foldlM_daysInMonth hy (by omega), Option.map_some, hday,
    UInt16.ofNat_add]

/-! ## The second -/

/-- The second since 1970 that fields name. -/
def secondOf (x : tm) : ℤ := named x - 2272147200

/-- The seconds of the fields that `gmtime_r` finds, with any day of the week. -/
lemma timeOf_eq {y k i r n : ℕ} (hy : At (yearLength leap) (n / 86400) y k) (hyear : 72 ≤ y)
    (hn : n < 2 ^ 31 + 2272147200) (wday : ℤ) :
    (timeOf (fieldsAt y k i r n wday)).toInt = n - 2272147200 := by
  have heq := hy.eq
  have hle := hy.start_le
  have hk := hy.lt
  have hlen := (yearLength_bounds leap y).2
  rw [start_yearLength] at heq hle
  have hyears : UInt8.ofInt ((y : ℤ) - 2 + 1900 - 1970) = UInt8.ofNat (y - 72) := by
    rw [← ofInt_natCast]
    congr 1
    omega
  have hnat : (UInt8.ofNat (y - 72)).toNat = y - 72 := by
    rw [UInt8.toNat_ofNat']
    omega
  have hproduct : (Int16.ofInt ((y - 72 : ℕ) * 365)).toInt = (y - 72 : ℕ) * 365 :=
    Int16.toInt_ofInt_of_le (by omega) (by omega)
  have hquarter : (UInt8.ofNat (y - 72) / 4).toNat = (y - 72) / 4 := by
    rw [UInt8.toNat_div, hnat]
    rfl
  have hlast : UInt8.ofNat (y - 72) % 4 = 3 ↔ (y - 72) % 4 = 3 := by
    rw [← UInt8.toNat_inj, UInt8.toNat_mod, hnat]
    rfl
  have hminutes : (UInt16.ofInt (((n / 60 % 60 : ℕ) : ℤ) * 60)).toNat = n / 60 % 60 * 60 := by
    rw [UInt16.ofInt, UInt16.toNat_ofNat']
    omega
  unfold timeOf fieldsAt
  dsimp only
  simp only [hyears, hnat, hproduct, hquarter, hlast, hminutes, SECS_PER_DAY]
  rw [Int32.toInt_ofInt_of_le]
  all_goals split <;> omega

/-- Fields of 1970 or later that `mktime` accepts: the month is one of the twelve, and with what
is carried out of the hours the day is at least the first. -/
structure Accepted (x : tm) : Prop where
  mon : 0 ≤ x.tm_mon ∧ x.tm_mon ≤ 11
  year : 70 ≤ x.tm_year
  mday : 1 ≤ (normaliseTime x).tm_mday

/-- The day of the week of a second, from 0 for Sunday. -/
def weekdayOf (n : ℕ) : ℕ := (n / 86400 - 26298 + 4) % 7

lemma mktime_of_named {x : tm} (hx : Accepted x) (hfits : Fits x) {n y k i r : ℕ} (hn : named x = n)
    (hmax : n < 2 ^ 31 + 2272147200) (hy : At (yearLength leap) (n / 86400) y k)
    (hm : At (monthLength (leap y)) k i r) :
    72 ≤ y ∧ mktime x =
      some (Int32.ofInt (n - 2272147200), fieldsAt y k i r n (weekdayOf n)) := by
  obtain ⟨hmon, hyear, hmday⟩ := hx
  have hi := (Date.FallsOn.of_at hy hm).valid.month.2
  have hr := hm.lt
  have hlen := (monthLength_bounds (leap y) i).2
  have hle := hy.start_le
  have hlt := hy.lt_start_succ
  have hk := hm.eq
  rw [normaliseTime_eq hfits, hn] at hmday
  generalize hY : (x.tm_year + 2).toNat = Y at hmday
  generalize hM : x.tm_mon.toNat = M at hmday
  have hyearY : x.tm_year = (Y : ℤ) - 2 := by omega
  dsimp only at hmday hi
  have hylow : 72 ≤ y := by
    rw [start_yearLength] at hmday hlt
    omega
  have hyhigh : y < 30000 := by
    rw [start_yearLength] at hle
    omega
  have hnlow : 2272147200 ≤ n := by
    rw [start_yearLength] at hle
    omega
  refine ⟨hylow, ?_⟩
  have hnormal : normaliseTime x = { x with
      tm_sec := (n % 60 : ℕ)
      tm_min := (n / 60 % 60 : ℕ)
      tm_hour := (n / 3600 % 24 : ℕ)
      tm_mday := ((n / 86400 - start (yearLength leap) Y -
        start (monthLength (leap Y)) M + 1 : ℕ) : ℤ) } := by
    rw [normaliseTime_eq hfits, hn, hY, hM, tm.mk.injEq]
    refine ⟨rfl, rfl, rfl, ?_, rfl, rfl, rfl, rfl⟩
    omega
  generalize hd : n / 86400 - start (yearLength leap) Y -
    start (monthLength (leap Y)) M + 1 = d at hnormal
  have hdate := normaliseDate_eq (Date.FallsOn.of_at hy hm) hyhigh d
    { x with
      tm_sec := (n % 60 : ℕ)
      tm_min := (n / 60 % 60 : ℕ)
      tm_hour := (n / 3600 % 24 : ℕ)
      tm_mday := (d : ℤ) } Y M d hyearY (by dsimp only; omega) rfl (by omega) (by omega) le_rfl
    (by omega)
  have hmonth : ((i + 1 : ℕ) : ℤ) - 1 = i := by omega
  have hdoy :=
    dayOfYear_eq (show y < 60000 by omega) (show i < 12 by omega) (show r + 1 ≤ 31 by omega)
  have hyday : ((UInt16.ofNat (start (monthLength (leap y)) i + (r + 1))).toNat : ℤ) - 1 = k := by
    have hklt := hy.lt
    have hyearLen := (yearLength_bounds leap y).2
    rw [UInt16.toNat_ofNat']
    omega
  have htime := timeOf_eq (r := r) (i := i) hy hylow hmax x.tm_wday
  have hret : timeOf (fieldsAt y k i r n x.tm_wday) = Int32.ofInt (n - 2272147200) := by
    rw [← Int32.toInt_inj, htime, Int32.toInt_ofInt_of_le (by omega) (by omega)]
  have hdays : UInt32.ofInt (((n : ℤ) - 2272147200).tdiv SECS_PER_DAY) =
      UInt32.ofNat (n / 86400 - 26298) := by
    rw [SECS_PER_DAY, Int.tdiv_eq_ediv_of_nonneg (by omega), ← UInt32.toNat_inj, UInt32.ofInt,
      UInt32.toNat_ofNat', UInt32.toNat_ofNat']
    omega
  have hwday : ((UInt32.ofInt (((n : ℤ) - 2272147200).tdiv SECS_PER_DAY) + 4) % 7).toNat =
      weekdayOf n := by
    rw [hdays, UInt32.toNat_mod, UInt32.toNat_add, UInt32.toNat_ofNat', weekdayOf]
    simp only [UInt32.reduceToNat]
    omega
  rw [mktime, hnormal]
  dsimp only
  rw [if_neg (by omega), Int.toNat_natCast, hdate, Option.bind_some]
  dsimp only
  rw [hmonth, hdoy, Option.map_some]
  rw [hyday]
  have hweek : (((UInt32.ofInt ((timeOf (fieldsAt y k i r n x.tm_wday)).toInt.tdiv SECS_PER_DAY) +
      4) % 7).toNat : ℤ) = weekdayOf n := by
    rw [htime, hwday]
  exact congrArg some (Prod.ext hret
    ((tm.mk.injEq ..).mpr ⟨rfl, rfl, rfl, rfl, rfl, rfl, hweek, rfl⟩))

/-- No second before 1970 is accepted. -/
lemma Accepted.le_named {x : tm} (h : Accepted x) (hfits : Fits x) : 2272147200 ≤ named x := by
  obtain ⟨-, hyear, hmday⟩ := h
  rw [normaliseTime_eq hfits] at hmday
  dsimp only at hmday
  rw [start_yearLength] at hmday
  omega

/-- From 1970 to 2038 the return value is the second that the fields name, and what is left in
them is what the Time library finds for that second, as long as no carry overflows. -/
theorem mktime_eq {x : tm} (hx : Accepted x) (hfits : Fits x) (hmax : secondOf x < 2 ^ 31) :
    ∃ t r, mktime x = some (t, r) ∧ t.toInt = secondOf x ∧
      r.since1970 = (Time.breakTime t.toUInt32).reading ∧
      r.tm_wday + 1 = (Time.breakTime t.toUInt32).Wday.toNat := by
  have hlow := hx.le_named hfits
  rw [secondOf] at hmax
  obtain ⟨n, hn⟩ := Int.eq_ofNat_of_zero_le (show 0 ≤ named x by omega)
  obtain ⟨y, k, hy⟩ := exists_at (yearLength_pos leap) (n / 86400)
  obtain ⟨i, r, hm⟩ := exists_at (monthLength_pos (leap y)) k
  obtain ⟨-, heq⟩ := mktime_of_named hx hfits hn (by omega) hy hm
  have ht : (Int32.ofInt ((n : ℤ) - 2272147200)).toInt = n - 2272147200 :=
    Int32.toInt_ofInt_of_le (by omega) (by omega)
  have hnat := toNat_toUInt32 (t := Int32.ofInt ((n : ℤ) - 2272147200)) (by omega)
  have hsecond : n = (Int32.ofInt ((n : ℤ) - 2272147200)).toUInt32.toNat + 2272147200 := by omega
  have hshows := fieldsAt_shows hy hm rfl (weekdayOf n)
  have hbreak := Time.breakTime_shows (Int32.ofInt ((n : ℤ) - 2272147200)).toUInt32
  refine ⟨_, _, heq, ?_, ?_, ?_⟩
  · rw [ht, secondOf, hn]
  · nth_rewrite 3 [hsecond] at hshows
    exact (shows_since1970 (by omega) hshows).2.reading_unique hbreak
  · rw [Time.breakTime_Wday]
    show (weekdayOf n : ℤ) + 1 = _
    unfold weekdayOf Time.weekdayOf
    omega

/-- The 60th day of 2016 and a time of 25 hours: 1 March, one o'clock. -/
theorem mktime_eq_march : ∃ t r, mktime ⟨0, 0, 25, 60, 0, 116, 0, 0⟩ = some (t, r) ∧
    t.toInt = secondOf ⟨0, 0, 25, 60, 0, 116, 0, 0⟩ ∧
    r.since1970 = (Time.breakTime t.toUInt32).reading ∧
    r.tm_wday + 1 = (Time.breakTime t.toUInt32).Wday.toNat :=
  mktime_eq ⟨by decide, by decide, by decide +kernel⟩
    ⟨⟨by decide, by decide⟩, ⟨by decide, by decide⟩, ⟨by decide, by decide⟩⟩ (by decide +kernel)

/-- A carry that overflows the minutes makes the day negative, and the fields are refused. -/
example : (mktime ⟨60, 32767, 0, 1, 0, 116, 0, 0⟩).map Prod.fst = some (-1) := by
  decide +kernel

/-! ## The round trip -/

/-- The fields of a second name it. -/
lemma named_fieldsAt {y k i r n d : ℕ} (hy : At (yearLength leap) d y k)
    (hm : At (monthLength (leap y)) k i r) (wday : ℤ) :
    named (fieldsAt y k i r n wday) = (d * 86400 + n % 86400 : ℕ) := by
  have h1 := hy.eq
  have h2 := hm.eq
  have hyear : ((y : ℤ) - 2 + 2).toNat = y := by omega
  unfold named fieldsAt
  dsimp only
  rw [hyear, Int.toNat_natCast]
  omega

/-- Fields in their ranges carry nothing. -/
lemma fits_fieldsAt {y k i r n : ℕ} (hm : At (monthLength (leap y)) k i r) (wday : ℤ) :
    Fits (fieldsAt y k i r n wday) := by
  have hr := hm.lt
  have hlen := (monthLength_bounds (leap y) i).2
  unfold fieldsAt
  refine ⟨⟨?_, ?_⟩, ⟨?_, ?_⟩, ⟨?_, ?_⟩⟩ <;> dsimp only <;> omega

/-- The fields of a second from 1970 on are accepted. -/
lemma accepted_fieldsAt {y k i r n d : ℕ} (hy : At (yearLength leap) d y k) (hyear : 72 ≤ y)
    (hm : At (monthLength (leap y)) k i r) (wday : ℤ) :
    Accepted (fieldsAt y k i r n wday) := by
  have hnamed := named_fieldsAt (n := n) hy hm wday
  have h1 := hy.eq
  have h2 := hm.eq
  have hi := (Date.FallsOn.of_at hy hm).valid.month.2
  have hnat : ((y : ℤ) - 2 + 2).toNat = y := by omega
  refine ⟨⟨?_, ?_⟩, ?_, ?_⟩
  · exact Int.natCast_nonneg i
  · unfold fieldsAt
    dsimp only at hi ⊢
    omega
  · unfold fieldsAt
    dsimp only
    omega
  · rw [normaliseTime_eq (fits_fieldsAt hm wday), hnamed]
    unfold fieldsAt
    dsimp only
    rw [hnat, Int.toNat_natCast]
    omega

/-- From 1970 on a time comes back, with its fields as they were, iff it does not lie on the last
day of a leap year. -/
theorem mktime_gmtime_r_iff {t : Int32} (h : 0 ≤ t.toInt) :
    (∃ r, gmtime_r t = some r ∧ mktime r = some (t, r)) ↔ second t / 86400 % 1461 ≠ 1095 := by
  have hsecond := second_eq t
  have hhigh := t.toInt_lt
  obtain ⟨y, k, i, r, hy, hm, -, -, hgm⟩ := gmtime_r_eq (t := t) (by omega)
  have hlow : 26298 ≤ dayFound t := by
    unfold dayFound
    split <;> omega
  have hlast : dayFound t * 86400 + second t % 86400 < 2 ^ 31 + 2272147200 := by
    unfold dayFound
    split <;> omega
  have hyear : 72 ≤ y := by
    have hlt := hy.lt_start_succ
    rw [start_yearLength] at hlt
    omega
  have hnamed := named_fieldsAt (n := second t) hy hm (weekdayFound t)
  have haccepted := accepted_fieldsAt (n := second t) hy hyear hm (weekdayFound t)
  have hfits := fits_fieldsAt (n := second t) hm (weekdayFound t)
  have hday : (dayFound t * 86400 + second t % 86400) / 86400 = dayFound t := by omega
  obtain ⟨-, hmk⟩ := mktime_of_named haccepted hfits hnamed hlast (by rwa [hday]) hm
  rw [hgm]
  constructor
  · rintro ⟨r', hr', hback⟩ hbad
    cases hr'
    rw [hmk, Option.some.injEq, Prod.mk.injEq] at hback
    have hret := congrArg Int32.toInt hback.1
    rw [dayFound, if_pos hbad] at hret hlast
    rw [Int32.toInt_ofInt_of_le (by omega) (by omega)] at hret
    omega
  · intro hgood
    have hsame : dayFound t * 86400 + second t % 86400 = second t := by
      rw [dayFound, if_neg hgood]
      omega
    rw [hsame] at hmk
    have hret : Int32.ofInt ((second t : ℤ) - 2272147200) = t := by
      rw [← Int32.toInt_inj, Int32.toInt_ofInt_of_le (by omega) (by omega)]
      omega
    have hweek : (weekdayOf (second t) : ℤ) = weekdayFound t := by
      have hfound := weekdayFound_eq h
      have hnat := toNat_toUInt32 h
      unfold Time.weekdayOf at hfound
      unfold weekdayOf
      omega
    refine ⟨_, rfl, ?_⟩
    rw [hmk, hret, hweek]

/-- Noon of 30 June 2016. -/
theorem mktime_gmtime_r_june :
    (∃ r, gmtime_r 1467288000 = some r ∧ mktime r = some (1467288000, r)) ↔
      second 1467288000 / 86400 % 1461 ≠ 1095 :=
  mktime_gmtime_r_iff (by decide)

end ArduinoProjects.RTCx
