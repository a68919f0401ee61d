import ArduinoProjects.Util.Intervals
import Mathlib.Data.List.Basic

/-!
# Calendars and the seconds they count

A calendar with twelve months is its rule for leap years, a predicate on the years counted
from its epoch; day 0 is the first of January of year 0. `Date.FallsOn` relates a date to
the number of its day, `Reading.Shows` relates a reading of a clock to the number of its
second. Both are functional in both directions, both are total, days and seconds compare
as their dates and readings do (`lt_iff`), and the next day or second belongs to the next
date or reading (`next`).
-/

namespace ArduinoProjects.Util

namespace Calendar

/-! ## Dates -/

/-- The number of days of month `i`, counted from 0. -/
def monthLength (leap : Bool) : ℕ → ℕ
  | 1 => if leap then 29 else 28
  | 3 | 5 | 8 | 10 => 30
  | _ => 31

/-- The number of days of a year. -/
def yearLength (leap : ℕ → Bool) (y : ℕ) : ℕ := if leap y then 366 else 365

/-- Months and days count from 1. -/
@[ext] structure Date where
  year : ℕ
  month : ℕ
  day : ℕ
deriving DecidableEq

/-- The calendar has this date. -/
structure Date.Valid (leap : ℕ → Bool) (D : Date) : Prop where
  month : 1 ≤ D.month ∧ D.month ≤ 12
  day : 1 ≤ D.day ∧ D.day ≤ monthLength (leap D.year) (D.month - 1)

/-- The date is that of day `n`. -/
structure Date.FallsOn (leap : ℕ → Bool) (D : Date) (n : ℕ) : Prop where
  valid : D.Valid leap
  eq : n = start (yearLength leap) D.year + start (monthLength (leap D.year)) (D.month - 1) +
    (D.day - 1)

lemma monthLength_bounds (leap : Bool) (i : ℕ) :
    28 ≤ monthLength leap i ∧ monthLength leap i ≤ 31 := by
  unfold monthLength
  split
  · cases leap <;> exact ⟨by decide, by decide⟩
  all_goals exact ⟨by decide, by decide⟩

lemma monthLength_pos (leap : Bool) (i : ℕ) : 0 < monthLength leap i := by
  have := monthLength_bounds leap i
  omega

lemma yearLength_bounds (leap : ℕ → Bool) (y : ℕ) :
    365 ≤ yearLength leap y ∧ yearLength leap y ≤ 366 := by
  unfold yearLength
  split <;> omega

lemma yearLength_pos (leap : ℕ → Bool) (y : ℕ) : 0 < yearLength leap y := by
  have := yearLength_bounds leap y
  omega

/-- Twelve months make a year. -/
lemma start_monthLength_twelve (leap : ℕ → Bool) (y : ℕ) :
    start (monthLength (leap y)) 12 = yearLength leap y := by
  unfold yearLength
  cases leap y <;> rfl

variable {leap : ℕ → Bool} {n n' : ℕ}

namespace Date

/-- A valid date falls on a day. -/
lemma Valid.fallsOn {D : Date} (h : D.Valid leap) :
    D.FallsOn leap (start (yearLength leap) D.year +
      start (monthLength (leap D.year)) (D.month - 1) + (D.day - 1)) :=
  ⟨h, rfl⟩

namespace FallsOn

variable {D D' : Date}

/-- The place of the day in its month. -/
lemma at_month (h : D.FallsOn leap n) :
    At (monthLength (leap D.year)) (n - start (yearLength leap) D.year) (D.month - 1)
      (D.day - 1) := by
  have h1 := h.valid.day
  have h2 := h.eq
  exact ⟨by omega, by omega⟩

/-- The place of the day in its year. -/
lemma at_year (h : D.FallsOn leap n) :
    At (yearLength leap) n D.year (n - start (yearLength leap) D.year) := by
  have h1 := h.valid.month
  have h2 := h.eq
  have hin := h.at_month.lt_start_succ
  have hle : start (monthLength (leap D.year)) (D.month - 1 + 1) ≤ yearLength leap D.year := by
    rw [← start_monthLength_twelve]
    exact start_mono _ (by omega)
  exact ⟨by omega, by omega⟩

/-- A place in a year and a place in a month of it make a date. -/
lemma of_at {y k i r : ℕ} (hy : At (yearLength leap) n y k)
    (hm : At (monthLength (leap y)) k i r) : FallsOn leap ⟨y, i + 1, r + 1⟩ n := by
  have hi : i < 12 := by
    by_contra hge
    have h1 := start_mono (monthLength (leap y)) (Nat.le_of_not_lt hge)
    rw [start_monthLength_twelve] at h1
    have h2 := hy.lt
    have h3 := hm.start_le
    omega
  have h1 := hy.eq
  have h2 := hm.eq
  have h3 := hm.lt
  refine ⟨⟨?_, ?_⟩, ?_⟩ <;> dsimp only
  · omega
  · rw [Nat.add_sub_cancel]
    omega
  · rw [Nat.add_sub_cancel, Nat.add_sub_cancel]
    omega

/-- Days are ordered by year, month and day. -/
theorem lt_iff (h : D.FallsOn leap n) (h' : D'.FallsOn leap n') :
    n < n' ↔ [D.year, D.month, D.day] < [D'.year, D'.month, D'.day] := by
  simp only [List.cons_lt_cons_iff, List.not_lt_nil, and_false, or_false]
  rw [h.at_year.lt_iff h'.at_year]
  refine or_congr_right (and_congr_right fun hy => ?_)
  have hm := h'.at_month
  rw [← hy] at hm
  rw [← hy, h.at_month.lt_iff hm]
  have h1 := h.valid.month
  have h2 := h'.valid.month
  have h3 := h.valid.day
  have h4 := h'.valid.day
  omega

/-- A day has one date. -/
theorem date_unique (h : D.FallsOn leap n) (h' : D'.FallsOn leap n) : D = D' := by
  obtain ⟨hy, -⟩ := h.at_year.unique h'.at_year
  have hplace := h'.at_month
  rw [← hy] at hplace
  obtain ⟨hm, hd⟩ := h.at_month.unique hplace
  have h1 := h.valid.month
  have h2 := h'.valid.month
  have h3 := h.valid.day
  have h4 := h'.valid.day
  exact Date.ext hy (by omega) (by omega)

/-- A date falls on one day. -/
lemma day_unique (h : D.FallsOn leap n) (h' : D.FallsOn leap n') : n = n' := by
  rw [h.eq, h'.eq]

end FallsOn

/-- Every day has a date. -/
theorem exists_fallsOn (leap : ℕ → Bool) (n : ℕ) : ∃ D : Date, D.FallsOn leap n := by
  obtain ⟨y, k, hy⟩ := exists_at (yearLength_pos leap) n
  obtain ⟨i, r, hm⟩ := exists_at (monthLength_pos (leap y)) k
  exact ⟨_, .of_at hy hm⟩

/-- The date after a date. -/
def next (leap : ℕ → Bool) (D : Date) : Date :=
  if D.day < monthLength (leap D.year) (D.month - 1) then ⟨D.year, D.month, D.day + 1⟩
  else if D.month < 12 then ⟨D.year, D.month + 1, 1⟩
  else ⟨D.year + 1, 1, 1⟩

/-- The first of a month falls on the day the month begins. -/
lemma fallsOn_first {y m : ℕ} (h : m < 12)
    (heq : n = start (yearLength leap) y + start (monthLength (leap y)) m) :
    FallsOn leap ⟨y, m + 1, 1⟩ n :=
  ⟨⟨⟨Nat.le_add_left 1 m, h⟩, ⟨le_rfl, monthLength_pos _ _⟩⟩, heq⟩

/-- The next day has the next date. -/
theorem FallsOn.next {D : Date} (h : D.FallsOn leap n) : (D.next leap).FallsOn leap (n + 1) := by
  have hmonth := h.valid.month
  have hday := h.valid.day
  have heq := h.eq
  unfold Date.next
  split
  · refine ⟨⟨hmonth, ?_⟩, ?_⟩ <;> dsimp only <;> omega
  · next hd =>
    -- the last day of the month
    have hend : n + 1 =
        start (yearLength leap) D.year + start (monthLength (leap D.year)) D.month := by
      have hsucc := start_succ (monthLength (leap D.year)) (D.month - 1)
      rw [Nat.sub_add_cancel hmonth.1] at hsucc
      omega
    split
    · next hm => exact fallsOn_first hm hend
    · have hdec : D.month = 12 := by omega
      rw [hdec, start_monthLength_twelve, ← start_succ] at hend
      exact fallsOn_first (by norm_num) hend

end Date

/-! ## Readings of a clock -/

/-- What a clock with a calendar shows. -/
structure Reading extends Date where
  hour : ℕ
  minute : ℕ
  second : ℕ
deriving DecidableEq

namespace Reading

/-- The calendar has the date and the day has the time. -/
structure Valid (leap : ℕ → Bool) (R : Reading) : Prop where
  date : R.toDate.Valid leap
  hour : R.hour < 24
  minute : R.minute < 60
  second : R.second < 60

/-- The reading is that of second `t`. -/
structure Shows (leap : ℕ → Bool) (R : Reading) (t : ℕ) : Prop where
  date : R.toDate.FallsOn leap (t / 86400)
  hour : R.hour = t / 3600 % 24
  minute : R.minute = t / 60 % 60
  second : R.second = t % 60

/-- The components, in the order in which readings compare. -/
def tuple (R : Reading) : List ℕ := [R.year, R.month, R.day, R.hour, R.minute, R.second]

/-- The second that begins a day, an hour, a minute and a second later. -/
def secondOf (n h m s : ℕ) : ℕ := ((n * 24 + h) * 60 + m) * 60 + s

variable {R R' : Reading} {t t' : ℕ}

lemma shows_secondOf (hdate : R.toDate.FallsOn leap n) (hh : R.hour < 24) (hm : R.minute < 60)
    (hs : R.second < 60) : R.Shows leap (secondOf n R.hour R.minute R.second) := by
  have hday : secondOf n R.hour R.minute R.second / 86400 = n := by
    unfold secondOf
    omega
  refine ⟨by rwa [hday], ?_, ?_, ?_⟩ <;> unfold secondOf <;> omega

/-- A valid reading is that of some second. -/
theorem Valid.exists_shows (h : R.Valid leap) : ∃ t, R.Shows leap t :=
  ⟨_, shows_secondOf h.date.fallsOn h.hour h.minute h.second⟩

/-- Every second has a reading. -/
theorem exists_shows (leap : ℕ → Bool) (t : ℕ) : ∃ R : Reading, R.Shows leap t := by
  obtain ⟨D, hD⟩ := Date.exists_fallsOn leap (t / 86400)
  exact ⟨⟨D, t / 3600 % 24, t / 60 % 60, t % 60⟩, hD, rfl, rfl, rfl⟩

namespace Shows

lemma valid (h : R.Shows leap t) : R.Valid leap := by
  refine ⟨h.date.valid, ?_, ?_, ?_⟩
  · rw [h.hour]
    exact Nat.mod_lt _ (by norm_num)
  · rw [h.minute]
    exact Nat.mod_lt _ (by norm_num)
  · rw [h.second]
    exact Nat.mod_lt _ (by norm_num)

/-- The second is recovered from the day and the time of day. -/
lemma eq_secondOf (h : R.Shows leap t) : t = secondOf (t / 86400) R.hour R.minute R.second := by
  rw [h.hour, h.minute, h.second]
  unfold secondOf
  omega

/-- A second has one reading. -/
theorem reading_unique (h : R.Shows leap t) (h' : R'.Shows leap t) : R = R' := by
  obtain ⟨D, hour, minute, second⟩ := R
  obtain ⟨D', hour', minute', second'⟩ := R'
  have hD := h.date.date_unique h'.date
  have hh := h.hour.trans h'.hour.symm
  have hm := h.minute.trans h'.minute.symm
  have hs := h.second.trans h'.second.symm
  dsimp only at hD hh hm hs
  rw [hD, hh, hm, hs]

/-- A reading is that of one second. -/
theorem second_unique (h : R.Shows leap t) (h' : R.Shows leap t') : t = t' := by
  rw [h.eq_secondOf, h'.eq_secondOf, h.date.day_unique h'.date]

/-- Seconds compare as their readings do. -/
theorem lt_iff (h : R.Shows leap t) (h' : R'.Shows leap t') : t < t' ↔ R.tuple < R'.tuple := by
  have hdate : R.tuple < R'.tuple ↔
      [R.year, R.month, R.day] < [R'.year, R'.month, R'.day] ∨
        ([R.year, R.month, R.day] = [R'.year, R'.month, R'.day] ∧
          [R.hour, R.minute, R.second] < [R'.hour, R'.minute, R'.second]) := by
    simp only [tuple, List.cons_lt_cons_iff, List.not_lt_nil, and_false, or_false,
      List.cons.injEq, and_true]
    tauto
  have hday : [R.year, R.month, R.day] = [R'.year, R'.month, R'.day] ↔
      t / 86400 = t' / 86400 := by
    constructor
    · intro heq
      simp only [List.cons.injEq, and_true] at heq
      have hD : R.toDate = R'.toDate := Date.ext heq.1 heq.2.1 heq.2.2
      exact h.date.day_unique (hD ▸ h'.date)
    · intro heq
      rw [h.date.date_unique (heq ▸ h'.date)]
  rw [hdate, hday, ← h.date.lt_iff h'.date, h.hour, h.minute, h.second, h'.hour, h'.minute,
    h'.second]
  simp only [List.cons_lt_cons_iff, List.not_lt_nil, and_false, or_false]
  omega

end Shows

/-- The reading after a reading. -/
def next (leap : ℕ → Bool) (R : Reading) : Reading :=
  if R.second < 59 then { R with second := R.second + 1 }
  else if R.minute < 59 then { R with minute := R.minute + 1, second := 0 }
  else if R.hour < 23 then { R with hour := R.hour + 1, minute := 0, second := 0 }
  else { toDate := R.toDate.next leap, hour := 0, minute := 0, second := 0 }

/-- The next second has the next reading. -/
theorem Shows.next (h : R.Shows leap t) : (R.next leap).Shows leap (t + 1) := by
  have hh := h.hour
  have hm := h.minute
  have hs := h.second
  unfold Reading.next
  -- within the day the date stays
  have hstay (hday : (t + 1) / 86400 = t / 86400) : R.toDate.FallsOn leap ((t + 1) / 86400) :=
    hday ▸ h.date
  split
  · refine ⟨hstay (by omega), ?_, ?_, ?_⟩ <;> dsimp only <;> omega
  split
  · refine ⟨hstay (by omega), ?_, ?_, ?_⟩ <;> dsimp only <;> omega
  split
  · refine ⟨hstay (by omega), ?_, ?_, ?_⟩ <;> dsimp only <;> omega
  · have hday : (t + 1) / 86400 = t / 86400 + 1 := by omega
    refine ⟨hday ▸ h.date.next, ?_, ?_, ?_⟩ <;> dsimp only <;> omega

end Reading

end Calendar

end ArduinoProjects.Util
