import ArduinoProjects.Time.Conversion
import Mathlib.Logic.Function.Iterate

/-!
# Times and their components

What the conversions of the Time library promise together: `makeTime` undoes `breakTime`
on every 32-bit time, `breakTime` undoes `makeTime` on exactly the dates up to the last
32-bit second, and the time after `t` seconds is what an odometer with the rules of the
calendar shows after `t` ticks.
-/

namespace ArduinoProjects.Time

open Util Util.Calendar

/-! ## Round trips -/

/-- The last 32-bit second is 06:28:15 of 7 February 2106. -/
def lastReading : Reading := ⟨⟨136, 2, 7⟩, 6, 28, 15⟩

lemma lastReading_shows : lastReading.Shows LEAP_YEAR (2 ^ 32 - 1) :=
  ⟨⟨⟨by decide, by decide⟩, by decide +kernel⟩, rfl, rfl, rfl⟩

/-- Valid fields up to the last second are the reading of a 32-bit time. -/
lemma exists_shows_toNat {tm : tmElements_t} (h : tm.reading.Valid LEAP_YEAR)
    (hle : ¬ lastReading.tuple < tm.reading.tuple) :
    tm.reading.Shows LEAP_YEAR (makeTime tm).toNat := by
  obtain ⟨n, hn⟩ := h.exists_shows
  have hlast : n ≤ 2 ^ 32 - 1 := by
    by_contra hlt
    exact hle ((lastReading_shows.lt_iff hn).mp (by omega))
  rw [makeTime_of_shows hn, UInt32.toNat_ofNat', Nat.mod_eq_of_lt (by omega)]
  exact hn

/-- Every time is assembled again from its components, which are a date and a time of day. -/
theorem makeTime_breakTime (t : UInt32) :
    (breakTime t).reading.Valid LEAP_YEAR ∧ makeTime (breakTime t) = t :=
  ⟨(breakTime_shows t).valid, by rw [makeTime_of_shows (breakTime_shows t), UInt32.ofNat_toNat]⟩

/-- Components come back iff they are a date and a time of day up to the last second. -/
theorem breakTime_makeTime_iff (tm : tmElements_t) :
    (breakTime (makeTime tm)).reading = tm.reading ↔
      tm.reading.Valid LEAP_YEAR ∧ ¬ lastReading.tuple < tm.reading.tuple := by
  have hbreak := breakTime_shows (makeTime tm)
  constructor
  · intro heq
    rw [heq] at hbreak
    refine ⟨hbreak.valid, fun hlt => ?_⟩
    have := (lastReading_shows.lt_iff hbreak).mpr hlt
    have := (makeTime tm).toNat_lt
    omega
  · intro ⟨hvalid, hle⟩
    exact hbreak.reading_unique (exists_shows_toNat hvalid hle)

/-! ## The odometer -/

/-- A wall clock with the day of the week, Sunday being day 1. -/
structure Dial extends Reading where
  weekday : ℕ
deriving DecidableEq

/-- The next second: the day of the week changes with the date. -/
def Dial.tick (D : Dial) : Dial where
  toReading := D.toReading.next LEAP_YEAR
  weekday := if (D.toReading.next LEAP_YEAR).toDate = D.toDate then D.weekday
    else D.weekday % 7 + 1

/-- Midnight of Thursday, 1 January 1970. -/
def epoch : Dial := ⟨⟨⟨0, 1, 1⟩, 0, 0, 0⟩, 5⟩

/-- What the components of a time show. -/
def dialOf (tm : tmElements_t) : Dial := ⟨tm.reading, tm.Wday.toNat⟩

/-- The dial is that of second `t`. -/
structure Dial.Shows (D : Dial) (t : ℕ) : Prop where
  reading : D.toReading.Shows LEAP_YEAR t
  weekday : D.weekday = weekdayOf (t / 86400)

lemma epoch_shows : epoch.Shows 0 := ⟨⟨⟨⟨by decide, by decide⟩, rfl⟩, rfl, rfl, rfl⟩, rfl⟩

/-- A tick is a second. -/
lemma Dial.Shows.tick {D : Dial} {t : ℕ} (h : D.Shows t) : D.tick.Shows (t + 1) := by
  have hnext := h.reading.next
  refine ⟨hnext, ?_⟩
  have hweekday := h.weekday
  have hsame : (D.toReading.next LEAP_YEAR).toDate = D.toDate ↔ (t + 1) / 86400 = t / 86400 := by
    constructor
    · intro heq
      exact (heq ▸ hnext.date).day_unique h.reading.date
    · intro heq
      exact (heq ▸ hnext.date).date_unique h.reading.date
  rw [weekdayOf] at hweekday ⊢
  unfold Dial.tick
  dsimp only
  split
  · next hd => rw [hsame.mp hd, hweekday]
  · next hd =>
    rw [hsame] at hd
    omega

/-- A dial is determined by its second. -/
lemma Dial.Shows.unique {D D' : Dial} {t : ℕ} (h : D.Shows t) (h' : D'.Shows t) : D = D' := by
  obtain ⟨R, w⟩ := D
  obtain ⟨R', w'⟩ := D'
  have hR : R = R' := h.reading.reading_unique h'.reading
  have hw : w = w' := h.weekday.trans h'.weekday.symm
  rw [hR, hw]

lemma dialOf_breakTime_shows (t : UInt32) : (dialOf (breakTime t)).Shows t.toNat :=
  ⟨breakTime_shows t, breakTime_Wday t⟩

lemma iterate_tick_shows (n : ℕ) : (Dial.tick^[n] epoch).Shows n := by
  induction n with
  | zero => exact epoch_shows
  | succ n ih =>
    rw [Function.iterate_succ_apply']
    exact ih.tick

/-- The components of time `t` are what the odometer shows after `t` ticks. -/
theorem breakTime_eq_iterate (t : UInt32) :
    dialOf (breakTime t) = Dial.tick^[t.toNat] epoch :=
  (dialOf_breakTime_shows t).unique (iterate_tick_shows _)

end ArduinoProjects.Time
