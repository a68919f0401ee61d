import ArduinoProjects.RTClib.CompileTime
import ArduinoProjects.RTClib.DS1307

/-!
# The clock sketch

`clock01.ino` sets a halted clock to the time at which it was compiled and prints the time
about every second. A run is the list of the seconds that the chip counts before each pass
of `loop`; its lines are those of the seconds that the chip shows then (`run_of_showsTime`,
`run_of_halted`).
-/

namespace ArduinoProjects.Clock01

open Util DS1307RTC RTClib

/-- What the sketch prints in `setup`, and the chip afterwards. The texts are `__DATE__` and
`__TIME__`. -/
def setup (tick : Chip → Chip) (date time : List UInt8) (m : UInt8) (a : Attempt) (r : Chip) :
    List UInt8 × Chip :=
  if RTC_DS1307.isrunning (WireReply.ofRegisters r.registers).available = false then
    (text "RTC is NOT running!" ++ crlf,
      RTC_DS1307.adjust tick (RTClib.DateTime.ofText m date time) a r)
  else ([], r)

/-- The text of a time. -/
def line (now : RTClib.DateTime) : List UInt8 :=
  decimal now.year.toNat ++ text "/" ++ decimal now.m.toNat ++ text "/" ++ decimal now.d.toNat ++
    text " " ++ decimal now.hh.toNat ++ text ":" ++ decimal now.mm.toNat ++ text ":" ++
    decimal now.ss.toNat ++ crlf

/-- What a pass prints. -/
def loop (r : Chip) : List UInt8 :=
  line (RTC_DS1307.now (WireReply.ofRegisters r.registers).available)

/-- The lines of the passes, before each of which the chip counts so many seconds. -/
def run (tick : Chip → Chip) : Chip → List ℕ → List (List UInt8)
  | _, [] => []
  | r, n :: gaps => loop (tick^[n] r) :: run tick (tick^[n] r) gaps

variable {tick : Chip → Chip}

lemma loop_of_showsTime {r : Chip} {u : UInt32} (hu : InCentury u.toNat) (hr : r.ShowsTime u) :
    loop r = line (RTClib.DateTime.ofTime u) := by
  rw [loop, RTC_DS1307.now_of_showsTime hu hr]

/-- A clock that shows a time: every line is that of the time then. -/
lemma run_of_showsTime (htick : KeepsTime tick) (gaps : List ℕ) {r : Chip} {u : UInt32}
    (hr : r.ShowsTime u) (hu : InCentury u.toNat) (hend : InCentury (u.toNat + gaps.sum)) (i : ℕ)
    (hi : i < gaps.length) :
    (run tick r gaps)[i]? =
      some (line (RTClib.DateTime.ofTime (u + UInt32.ofNat (gaps.take (i + 1)).sum))) := by
  induction gaps generalizing r u i with
  | nil => exact absurd hi (Nat.not_lt_zero i)
  | cons n gaps ih =>
    rw [List.sum_cons] at hend
    have hn : InCentury (u.toNat + n) := ⟨by have := hu.1; omega, by have := hend.2; omega⟩
    have hnext := htick.iterate hu hr n hn
    cases i with
    | zero =>
      rw [run, List.getElem?_cons_zero, loop_of_showsTime hn.add hnext]
      rfl
    | succ i =>
      have hrest := ih hnext hn.add (by rw [hn.toNat_add, Nat.add_assoc]; exact hend) i
        (Nat.lt_of_succ_lt_succ hi)
      rw [run, List.getElem?_cons_succ, hrest, List.take_succ_cons, List.sum_cons,
        UInt32.ofNat_add, UInt32.add_assoc]

/-- The texts of the compiler set the clock to the time of the compiler. -/
lemma ofText_dateText (m : UInt8) {dt : RTClib.DateTime} (h : dt.InCentury) :
    RTClib.DateTime.ofText m (dateText (2000 + dt.yOff.toNat) dt.m.toNat dt.d.toNat)
      (timeText dt.hh.toNat dt.mm.toNat dt.ss.toNat) = dt := by
  have hvalid := h.valid
  have hyear := h.year
  have hday := le_trans hvalid.date.day.2 (Calendar.monthLength_bounds _ _).2
  have hread := reading_ofText m
    (R := ⟨⟨2000 + dt.yOff.toNat, dt.m.toNat, dt.d.toNat⟩, dt.hh.toNat, dt.mm.toNat, dt.ss.toNat⟩)
    hvalid.date.month hday hvalid.hour hvalid.minute hvalid.second
    ⟨show 1000 ≤ 2000 + dt.yOff.toNat by omega, show 2000 + dt.yOff.toNat < 10000 by omega⟩
  refine DateTime.reading_inj (hread.trans ?_)
  have hmod : (2000 + dt.yOff.toNat) % 100 = dt.yOff.toNat := by omega
  rw [DateTime.reading, hmod]

/-- A halted clock is reported and set to the time of the compiler; every line shows the time
that has passed since. -/
theorem run_of_halted (htick : KeepsTime tick) {dt : RTClib.DateTime} (hdt : dt.InCentury)
    {a : Attempt} (ha : RTC_DS1307.Complete a) {r : Chip} (hr : r.Halted) (m : UInt8)
    (gaps : List ℕ) (hend : InCentury (dt.unixtime.toNat + (a.gaps 8 + gaps.sum))) :
    (setup tick (dateText (2000 + dt.yOff.toNat) dt.m.toNat dt.d.toNat)
        (timeText dt.hh.toNat dt.mm.toNat dt.ss.toNat) m a r).1 =
      text "RTC is NOT running!" ++ crlf ∧
    ∀ i < gaps.length, ∃ now : RTClib.DateTime,
      (run tick (setup tick (dateText (2000 + dt.yOff.toNat) dt.m.toNat dt.d.toNat)
        (timeText dt.hh.toNat dt.mm.toNat dt.ss.toNat) m a r).2 gaps)[i]? = some (line now) ∧
      now.reading.Shows leap (dt.seconds + (a.gaps 8 + (gaps.take (i + 1)).sum)) := by
  have hhalted : RTC_DS1307.isrunning (WireReply.ofRegisters r.registers).available = false := by
    rw [← Bool.not_eq_true, RTC_DS1307.isrunning_iff, not_not]
    exact hr
  rw [setup, if_pos hhalted, ofText_dateText m hdt]
  refine ⟨rfl, fun i hi => ?_⟩
  have hbegin : InCentury (dt.unixtime.toNat + (a.gaps 8 + 0)) :=
    ⟨by have := hdt.unixtime.1; omega, by have := hend.2; omega⟩
  have hshows := RTC_DS1307.showsTime_adjust htick hdt ha r 0 hbegin
  have hline := run_of_showsTime htick gaps hshows hbegin.add
    (by rw [hbegin.toNat_add, Nat.add_zero, Nat.add_assoc]; exact hend) i hi
  refine ⟨_, hline, ?_⟩
  have htake : (gaps.take (i + 1)).sum + (gaps.drop (i + 1)).sum = gaps.sum :=
    List.sum_take_add_sum_drop gaps (i + 1)
  have hpart : InCentury (dt.unixtime.toNat + (a.gaps 8 + (gaps.take (i + 1)).sum)) :=
    ⟨by have := hdt.unixtime.1; omega, by have := hend.2; omega⟩
  have hofTime := ofTime_shows
    (dt.unixtime + UInt32.ofNat (a.gaps 8 + (gaps.take (i + 1)).sum))
  rw [toNat_sub_2000 hpart.add.1, hpart.toNat_add, hdt.toNat_unixtime] at hofTime
  have hsecond : dt.seconds + 946684800 + (a.gaps 8 + (gaps.take (i + 1)).sum) - 946684800 =
      dt.seconds + (a.gaps 8 + (gaps.take (i + 1)).sum) := by omega
  rw [hsecond, UInt32.ofNat_add, ← UInt32.add_assoc] at hofTime
  exact hofTime

/-- A sketch that was compiled at five past nine on 1 July 2016. -/
theorem run_of_halted_july :
    (setup Chip.count (dateText 2016 7 1) (timeText 9 5 0) 0 undisturbed fun _ => 0x80).1 =
      text "RTC is NOT running!" ++ crlf ∧
    ∀ i < [2, 1, 1].length, ∃ now : RTClib.DateTime,
      (run Chip.count (setup Chip.count (dateText 2016 7 1) (timeText 9 5 0) 0 undisturbed
        fun _ => 0x80).2 [2, 1, 1])[i]? = some (line now) ∧
      now.reading.Shows leap (DateTime.seconds ⟨16, 7, 1, 9, 5, 0⟩ +
        (undisturbed.gaps 8 + ([2, 1, 1].take (i + 1)).sum)) :=
  run_of_halted keepsTime_count
    (show DateTime.InCentury ⟨16, 7, 1, 9, 5, 0⟩ from
      ⟨⟨⟨by decide, by decide⟩, by decide, by decide, by decide⟩, by decide⟩)
    ⟨by decide, fun _ _ _ => rfl⟩ (by decide) 0 [2, 1, 1]
    ⟨by decide +kernel, by decide +kernel⟩

end ArduinoProjects.Clock01
