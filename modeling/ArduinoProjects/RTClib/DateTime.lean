import ArduinoProjects.Time.RoundTrip

/-!
# `DateTime` of RTClib

The other clock library counts its years from 2000 and takes every fourth one for a leap
year. Its conversions are the readings of that calendar (`ofTime_shows`,
`unixtime_of_shows`), which is the Gregorian one until 2099.
-/

namespace ArduinoProjects.RTClib

open Util Util.Calendar

/-- A date and time; the year counts from 2000. -/
structure DateTime where
  yOff : UInt8
  m : UInt8
  d : UInt8
  hh : UInt8
  mm : UInt8
  ss : UInt8
deriving DecidableEq

/-- The fields as a reading; its years count from 2000. -/
def DateTime.reading (dt : DateTime) : Reading where
  year := dt.yOff.toNat
  month := dt.m.toNat
  day := dt.d.toNat
  hour := dt.hh.toNat
  minute := dt.mm.toNat
  second := dt.ss.toNat

lemma DateTime.reading_inj {dt dt' : DateTime} (h : dt.reading = dt'.reading) : dt = dt' := by
  obtain ⟨y, m, d, hh, mm, ss⟩ := dt
  obtain ⟨y', m', d', hh', mm', ss'⟩ := dt'
  simp only [reading, Reading.mk.injEq, Date.mk.injEq, UInt8.toNat_inj] at h
  obtain ⟨⟨rfl, rfl, rfl⟩, rfl, rfl, rfl⟩ := h
  rfl

/-- 1 January 2000 in seconds since 1970. -/
def SECONDS_FROM_1970_TO_2000 : UInt32 := 946684800

/-- The table of the months of a common year. -/
def daysInMonth : List UInt8 := [31, 28, 31, 30, 31, 30, 31, 31, 30, 31, 30, 31]

/-- Every fourth year. -/
def leap (y : ℕ) : Bool := y % 4 == 0

/-! ## From seconds to fields -/

/-- The loop over the years. -/
def yearLoop : ℕ → UInt8 → UInt16 → Option (UInt8 × UInt16)
  | 0, _, _ => none
  | fuel + 1, yOff, days =>
    let leap : UInt16 := if yOff % 4 = 0 then 1 else 0
    if days < 365 + leap then some (yOff, days)
    else yearLoop fuel (yOff + 1) (days - (365 + leap))

/-- The length of month `m` in the loop over the months. -/
def daysPerMonth (leap : Bool) (m : UInt8) : UInt8 :=
  let daysPerMonth := daysInMonth.getD (m.toNat - 1) 0
  if leap ∧ m = 2 then daysPerMonth + 1 else daysPerMonth

/-- The loop over the months. -/
def monthLoop (leap : Bool) : ℕ → UInt8 → UInt16 → Option (UInt8 × UInt16)
  | 0, _, _ => none
  | fuel + 1, m, days =>
    if days < (daysPerMonth leap m).toUInt16 then some (m, days)
    else monthLoop leap fuel (m + 1) (days - (daysPerMonth leap m).toUInt16)

lemma toNat_yearDays (yOff : UInt8) :
    (365 + if yOff % 4 = 0 then 1 else 0 : UInt16).toNat = yearLength leap yOff.toNat := by
  have hmod : yOff % 4 = 0 ↔ yOff.toNat % 4 = 0 := by
    rw [← UInt8.toNat_inj, UInt8.toNat_mod]
    rfl
  unfold yearLength leap
  by_cases h : yOff.toNat % 4 = 0
  · rw [if_pos (hmod.mpr h), if_pos (beq_iff_eq.mpr h)]
    rfl
  · rw [if_neg (fun h' => h (hmod.mp h')), if_neg (fun h' => h (beq_iff_eq.mp h'))]
    rfl

/-- The loop ends in the year of the day. -/
lemma yearLoop_eq {n y k : ℕ} (h : At (yearLength leap) n y k) (hy : y < 256) :
    ∀ (fuel : ℕ) (yOff : UInt8) (days : UInt16), yOff.toNat ≤ y → y < yOff.toNat + fuel →
      start (yearLength leap) yOff.toNat + days.toNat = n →
      yearLoop fuel yOff days = some (UInt8.ofNat y, UInt16.ofNat k) := by
  intro fuel
  induction fuel with
  | zero =>
    intro yOff days h1 h2
    omega
  | succ fuel ih =>
    intro yOff days hle hfuel hdays
    have hlen := toNat_yearDays yOff
    have hsucc := start_succ (yearLength leap) yOff.toNat
    have heq := h.eq
    rw [yearLoop]
    by_cases hlast : yOff.toNat = y
    · -- the day lies in this year
      have hlt := h.lt
      rw [← hlast] at heq hlt
      have hk : days.toNat = k := by omega
      rw [if_pos (by rw [UInt16.lt_iff_toNat_lt, hlen]; omega), ← hlast, ← hk, UInt8.ofNat_toNat,
        UInt16.ofNat_toNat]
    · have hnext : (yOff + 1).toNat = yOff.toNat + 1 := by
        rw [UInt8.toNat_add, UInt8.toNat_one]
        omega
      have hstart := start_mono (yearLength leap) (show yOff.toNat + 1 ≤ y by omega)
      have hge : yearLength leap yOff.toNat ≤ days.toNat := by omega
      rw [if_neg (by rw [UInt16.lt_iff_toNat_lt, hlen]; omega)]
      refine ih _ _ (by omega) (by omega) ?_
      rw [UInt16.toNat_sub_of_le _ _ (by rw [UInt16.le_iff_toNat_le, hlen]; exact hge), hlen, hnext]
      omega

lemma toNat_daysPerMonth {b : Bool} {m : UInt8} (h : 1 ≤ m.toNat ∧ m.toNat ≤ 12) :
    (daysPerMonth b m).toNat = monthLength b (m.toNat - 1) := by
  have hfeb : m = 2 ↔ m.toNat = 2 := by
    rw [← UInt8.toNat_inj]
    rfl
  unfold daysPerMonth
  simp only [hfeb]
  obtain ⟨h1, h2⟩ := h
  generalize m.toNat = i at h1 h2
  interval_cases i <;> cases b <;> rfl

/-- The loop ends in the month of the day. -/
lemma monthLoop_eq {b : Bool} {k i r : ℕ} (h : At (monthLength b) k i r) (hi : i < 12) :
    ∀ (fuel : ℕ) (m : UInt8) (days : UInt16), 1 ≤ m.toNat → m.toNat ≤ i + 1 →
      i + 1 < m.toNat + fuel → start (monthLength b) (m.toNat - 1) + days.toNat = k →
      monthLoop b fuel m days = some (UInt8.ofNat (i + 1), UInt16.ofNat r) := by
  intro fuel
  induction fuel with
  | zero =>
    intro m days h0 h1 h2
    omega
  | succ fuel ih =>
    intro m days hpos hle hfuel hdays
    have hlen := toNat_daysPerMonth (b := b) (m := m) (by omega)
    have hsucc := start_succ (monthLength b) (m.toNat - 1)
    rw [Nat.sub_add_cancel hpos] at hsucc
    have heq := h.eq
    rw [monthLoop]
    by_cases hlast : m.toNat = i + 1
    · -- the day lies in this month
      have hlt := h.lt
      have hi' : m.toNat - 1 = i := by omega
      rw [← hi'] at heq hlt
      have hr : days.toNat = r := by omega
      rw [if_pos (by rw [UInt16.lt_iff_toNat_lt, UInt8.toNat_toUInt16, hlen]; omega), ← hlast,
        ← hr, UInt8.ofNat_toNat, UInt16.ofNat_toNat]
    · have hnext : (m + 1).toNat = m.toNat + 1 := by
        rw [UInt8.toNat_add, UInt8.toNat_one]
        omega
      have hstart := start_mono (monthLength b) (show m.toNat ≤ i by omega)
      have hge : monthLength b (m.toNat - 1) ≤ days.toNat := by omega
      rw [if_neg (by rw [UInt16.lt_iff_toNat_lt, UInt8.toNat_toUInt16, hlen]; omega)]
      refine ih _ _ (by omega) (by omega) (by omega) ?_
      rw [UInt16.toNat_sub_of_le _ _
        (by rw [UInt16.le_iff_toNat_le, UInt8.toNat_toUInt16, hlen]; exact hge),
        UInt8.toNat_toUInt16, hlen, hnext, Nat.add_sub_cancel]
      omega

/-- The day of a time, in 16 bits. -/
def dayOf (t : UInt32) : UInt16 := (t / 60 / 60 / 24).toUInt16

lemma toNat_dayOf (t : UInt32) : (dayOf t).toNat = t.toNat / 86400 := by
  have hlt := t.toNat_lt
  rw [dayOf, UInt32.toNat_toUInt16]
  simp only [UInt32.toNat_div, UInt32.reduceToNat, Nat.div_div_eq_div_mul]
  omega

/-- The loops end for every time. -/
lemma loops_eq (t : UInt32) : ∃ y k i r, At (yearLength leap) (t.toNat / 86400) y k ∧
    At (monthLength (leap y)) k i r ∧ y < 137 ∧ i < 12 ∧
    yearLoop 256 0 (dayOf t) = some (UInt8.ofNat y, UInt16.ofNat k) ∧
    monthLoop (leap (UInt8.ofNat y).toNat) 12 1 (UInt16.ofNat k) =
      some (UInt8.ofNat (i + 1), UInt16.ofNat r) := by
  obtain ⟨y, k, hy⟩ := exists_at (yearLength_pos leap) (t.toNat / 86400)
  obtain ⟨i, r, hm⟩ := exists_at (monthLength_pos (leap y)) k
  have hlt := t.toNat_lt
  have hlow := (start_bounds (yearLength_bounds leap) y).1
  have hle := hy.start_le
  have hk := hy.lt
  have hlen := (yearLength_bounds leap y).2
  have hi : i < 12 := (Date.FallsOn.of_at hy hm).valid.month.2
  have hnat : (UInt8.ofNat y).toNat = y := by
    rw [UInt8.toNat_ofNat']
    omega
  have hkNat : (UInt16.ofNat k).toNat = k := by
    rw [UInt16.toNat_ofNat']
    omega
  refine ⟨y, k, i, r, hy, hm, by omega, hi, ?_, ?_⟩
  · exact yearLoop_eq hy (by omega) 256 0 _ (Nat.zero_le y) (by rw [UInt8.toNat_zero]; omega)
      (by rw [UInt8.toNat_zero, start_zero, toNat_dayOf, Nat.zero_add])
  · rw [hnat]
    refine monthLoop_eq hm hi 12 1 _ le_rfl ?_ ?_ ?_
    · rw [UInt8.toNat_one]
      omega
    · rw [UInt8.toNat_one]
      omega
    · rw [UInt8.toNat_one, Nat.sub_self, start_zero, hkNat, Nat.zero_add]

/-- The loop over the years ends within the 8 bits of a year. -/
lemma yearLoop_isSome (t : UInt32) : (yearLoop 256 0 (dayOf t)).isSome := by
  obtain ⟨y, k, i, r, -, -, -, -, h, -⟩ := loops_eq t
  rw [h]
  rfl

/-- The year of a time and the day of the year. -/
def yearOf (t : UInt32) : UInt8 × UInt16 := (yearLoop 256 0 (dayOf t)).get (yearLoop_isSome t)

/-- The loop over the months ends within a year. -/
lemma monthLoop_isSome (t : UInt32) :
    (monthLoop (leap (yearOf t).1.toNat) 12 1 (yearOf t).2).isSome := by
  obtain ⟨y, k, i, r, -, -, -, -, hy, hm⟩ := loops_eq t
  unfold yearOf
  simp only [hy, Option.get_some]
  rw [hm]
  rfl

/-- The constructor `DateTime (uint32_t t)`. -/
def DateTime.ofTime (t : UInt32) : DateTime :=
  let t := t - SECONDS_FROM_1970_TO_2000 -- bring to 2000 timestamp from 1970
  let month := (monthLoop (leap (yearOf t).1.toNat) 12 1 (yearOf t).2).get (monthLoop_isSome t)
  { yOff := (yearOf t).1
    m := month.1
    d := (month.2 + 1).toUInt8
    hh := (t / 60 / 60 % 24).toUInt8
    mm := (t / 60 % 60).toUInt8
    ss := (t % 60).toUInt8 }

/-- The constructor reads the calendar of the library. -/
theorem ofTime_shows (t : UInt32) :
    (DateTime.ofTime t).reading.Shows leap (t - SECONDS_FROM_1970_TO_2000).toNat := by
  generalize hs : t - SECONDS_FROM_1970_TO_2000 = s
  obtain ⟨y, k, i, r, hy, hm, hylt, hi, hyear, hmonth⟩ := loops_eq s
  have hfalls := Date.FallsOn.of_at hy hm
  have hr : r < 31 := lt_of_lt_of_le hm.lt (monthLength_bounds _ _).2
  have hyearOf : yearOf s = (UInt8.ofNat y, UInt16.ofNat k) := by
    unfold yearOf
    simp only [hyear, Option.get_some]
  have hdate : (DateTime.ofTime t).reading.toDate = ⟨y, i + 1, r + 1⟩ := by
    unfold DateTime.ofTime DateTime.reading
    simp only [hs, hyearOf, hmonth, Option.get_some]
    refine Date.ext ?_ ?_ ?_ <;> dsimp only
    · rw [UInt8.toNat_ofNat']
      omega
    · rw [UInt8.toNat_ofNat']
      omega
    · rw [UInt16.toNat_toUInt8, UInt16.toNat_add, UInt16.toNat_ofNat', UInt16.toNat_one]
      omega
  refine ⟨hdate ▸ hfalls, ?_, ?_, ?_⟩
  · show ((t - SECONDS_FROM_1970_TO_2000) / 60 / 60 % 24).toUInt8.toNat = _
    rw [hs, Time.toNat_toUInt8_mod (by decide) (by decide)]
    simp only [UInt32.toNat_div, UInt32.reduceToNat, Nat.div_div_eq_div_mul]
  · show ((t - SECONDS_FROM_1970_TO_2000) / 60 % 60).toUInt8.toNat = _
    rw [hs, Time.toNat_toUInt8_mod (by decide) (by decide)]
    simp only [UInt32.toNat_div, UInt32.reduceToNat]
  · show ((t - SECONDS_FROM_1970_TO_2000) % 60).toUInt8.toNat = _
    rw [hs]
    exact Time.toNat_toUInt8_mod (by decide) (by decide)

/-! ## From fields to seconds -/

/-- The days of the months before month `m`. -/
def addMonths (m : ℕ) (days : UInt16) : UInt16 :=
  (List.range' 1 (m - 1)).foldl (fun days i => days + (daysInMonth.getD (i - 1) 0).toUInt16) days

/-- The number of days since 2000/01/01. -/
def date2days (y : UInt16) (m d : UInt8) : UInt16 :=
  let y := if y ≥ 2000 then y - 2000 else y
  let days := addMonths m.toNat d.toUInt16
  let days := if m > 2 ∧ y % 4 = 0 then days + 1 else days
  days + 365 * y + (y + 3) / 4 - 1

/-- The arithmetic is that of a signed 32-bit `long`. -/
def time2long (days : UInt16) (h m s : UInt8) : Int32 :=
  ((Int32.ofNat days.toNat * 24 + Int32.ofNat h.toNat) * 60 + Int32.ofNat m.toNat) * 60 +
    Int32.ofNat s.toNat

/-- The seconds since 2000, as long as they fit: from 19 January 2068 on they are negative. -/
def DateTime.secondstime (dt : DateTime) : Int32 :=
  time2long (date2days dt.yOff.toUInt16 dt.m dt.d) dt.hh dt.mm dt.ss

/-- `DateTime::unixtime()`. -/
def DateTime.unixtime (dt : DateTime) : UInt32 :=
  dt.secondstime.toUInt32 + SECONDS_FROM_1970_TO_2000

/-- The number of seconds that the `long` holds 32 bits of. -/
def DateTime.seconds (dt : DateTime) : ℕ :=
  (((date2days dt.yOff.toUInt16 dt.m dt.d).toNat * 24 + dt.hh.toNat) * 60 + dt.mm.toNat) * 60 +
    dt.ss.toNat

/-- `DateTime::dayOfTheWeek()`: Sunday is 0. -/
def DateTime.dayOfTheWeek (dt : DateTime) : UInt8 :=
  let day := date2days dt.yOff.toUInt16 dt.m dt.d
  ((day + 6) % 7).toUInt8 -- Jan 1, 2000 is a Saturday, i.e. returns 6

lemma secondstime_eq (dt : DateTime) : dt.secondstime = Int32.ofNat dt.seconds := by
  simp only [DateTime.secondstime, time2long, DateTime.seconds, Int32.ofNat_add, Int32.ofNat_mul]
  rfl

lemma unixtime_eq (dt : DateTime) :
    dt.unixtime = UInt32.ofNat dt.seconds + SECONDS_FROM_1970_TO_2000 := by
  rw [DateTime.unixtime, secondstime_eq]
  rfl

/-- The days before a year: every fourth year from 2000 on is a leap year. -/
lemma start_yearLength (y : ℕ) : start (yearLength leap) y = 365 * y + (y + 3) / 4 := by
  induction y with
  | zero => rfl
  | succ y ih =>
    have hlen : yearLength leap y = if y % 4 = 0 then 366 else 365 := by
      unfold yearLength leap
      simp only [beq_iff_eq]
    rw [start_succ, ih, hlen]
    split <;> omega

/-- The leap day counts in the months after February. -/
lemma start_monthLength (b : Bool) {m : ℕ} (h : m ≤ 12) :
    start (monthLength b) (m - 1) =
      start (monthLength false) (m - 1) + if 2 < m ∧ b then 1 else 0 := by
  interval_cases m <;> cases b <;> rfl

lemma addMonths_eq {m : ℕ} (h : m ≤ 12) (days : UInt16) :
    addMonths m days = days + UInt16.ofNat (start (monthLength false) (m - 1)) := by
  unfold addMonths
  generalize hi : m - 1 = i
  have hlt : i < 12 := by omega
  clear hi h
  induction i with
  | zero => exact (UInt16.add_zero days).symm
  | succ i ih =>
    rw [List.range'_concat, List.foldl_append, ih (by omega), start_succ, List.foldl_cons,
      List.foldl_nil, UInt16.ofNat_add, UInt16.add_assoc]
    congr 2
    have hi : i < 11 := by omega
    interval_cases i <;> rfl

/-- `date2days` computes the day of a reading. -/
lemma toNat_date2days {dt : DateTime} {n : ℕ} (h : dt.reading.toDate.FallsOn leap n)
    (hn : n < 2 ^ 16) : (date2days dt.yOff.toUInt16 dt.m dt.d).toNat = n := by
  have hmonth := h.valid.month
  have hday := h.valid.day.1
  have heq := h.eq
  have hy := dt.yOff.toNat_lt
  simp only [DateTime.reading] at hmonth hday heq
  rw [start_yearLength, start_monthLength _ hmonth.2] at heq
  have hsmall : ¬ dt.yOff.toUInt16 ≥ 2000 := by
    rw [ge_iff_le, UInt16.le_iff_toNat_le, UInt8.toNat_toUInt16]
    simp only [UInt16.reduceToNat]
    omega
  have hfeb : dt.m > 2 ∧ dt.yOff.toUInt16 % 4 = 0 ↔ 2 < dt.m.toNat ∧ leap dt.yOff.toNat := by
    rw [gt_iff_lt, UInt8.lt_iff_toNat_lt, ← UInt16.toNat_inj, UInt16.toNat_mod,
      UInt8.toNat_toUInt16, leap, beq_iff_eq]
    rfl
  have hquot : (dt.yOff.toUInt16 + 3) / 4 = UInt16.ofNat ((dt.yOff.toNat + 3) / 4) := by
    rw [← UInt16.toNat_inj, UInt16.toNat_div, UInt16.toNat_add, UInt16.toNat_ofNat',
      UInt8.toNat_toUInt16]
    simp only [UInt16.reduceToNat]
    omega
  have hleap (x : UInt16) : (if 2 < dt.m.toNat ∧ leap dt.yOff.toNat then x + 1 else x) =
      x + UInt16.ofNat (if 2 < dt.m.toNat ∧ leap dt.yOff.toNat then 1 else 0) := by
    split
    · rfl
    · exact (UInt16.add_zero x).symm
  have hsum : date2days dt.yOff.toUInt16 dt.m dt.d = UInt16.ofNat (n + 1) - 1 := by
    unfold date2days
    simp only [if_neg hsmall, hfeb, addMonths_eq hmonth.2, hquot, hleap]
    rw [← UInt16.ofNat_uInt8ToNat, ← UInt16.ofNat_uInt8ToNat, ← UInt16.ofNat_add,
      ← UInt16.ofNat_add, show (365 : UInt16) = UInt16.ofNat 365 from rfl, ← UInt16.ofNat_mul,
      ← UInt16.ofNat_add, ← UInt16.ofNat_add]
    congr 2
    omega
  rw [hsum, UInt16.ofNat_add]
  show (UInt16.ofNat n + 1 - 1).toNat = n
  rw [UInt16.add_sub_cancel, UInt16.toNat_ofNat', Nat.mod_eq_of_lt hn]

/-- The fields of a reading count its second. -/
theorem seconds_of_shows {dt : DateTime} {n : ℕ} (h : dt.reading.Shows leap n)
    (hn : n < 2 ^ 32) : dt.seconds = n := by
  rw [DateTime.seconds, toNat_date2days h.date (by omega)]
  exact h.eq_secondOf.symm

end ArduinoProjects.RTClib
