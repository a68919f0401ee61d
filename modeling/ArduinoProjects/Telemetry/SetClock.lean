import ArduinoProjects.DS1307RTC.SetGet
import ArduinoProjects.Telemetry.TimeOrder

/-!
# Rows from a clock that was set

From setting the clock to the logged row: the sender reads a chip some seconds after
`DS1307RTC::set`, a poll of the logger finds its frame, and the row that the poll logs, if the
second is even, begins with that time. Rows of later frames sort later
(`rows_sort_by_seconds`).
-/

namespace ArduinoProjects

open Util Time

namespace DS1307RTC

/-- The components of a second of the century as a date and time of the chip. -/
def dateTimeOf (u : UInt32) (hu : InCentury u.toNat) : DateTime where
  year := (breakTime u).Year.toNat + 1970
  month := (breakTime u).Month.toNat
  day := (breakTime u).Day.toNat
  hour := (breakTime u).Hour.toNat
  minute := (breakTime u).Minute.toNat
  second := (breakTime u).Second.toNat
  year_bounds := by
    have := (storable_breakTime hu).Year
    omega
  month_bounds := (breakTime_shows u).valid.date.month
  day_bounds := ⟨(breakTime_shows u).valid.date.day.1,
    le_trans (breakTime_shows u).valid.date.day.2 (Calendar.monthLength_bounds _ _).2⟩
  hour_le := Nat.le_of_lt_succ (breakTime_shows u).valid.hour
  minute_le := Nat.le_of_lt_succ (breakTime_shows u).valid.minute
  second_le := Nat.le_of_lt_succ (breakTime_shows u).valid.second

lemma holds_of_showsTime {r : Chip} {u : UInt32} (hu : InCentury u.toNat) (hr : r.ShowsTime u) :
    r.registers.Holds (dateTimeOf u hu) := by
  have hyear := (storable_breakTime hu).Year
  have hle : (30 : UInt8) ≤ (breakTime u).Year := UInt8.le_iff_toNat_le.mpr hyear.1
  have hsub : (tmYearToY2k (breakTime u).Year).toNat =
      (breakTime u).Year.toNat + 1970 - 2000 := by
    rw [tmYearToY2k, UInt8.toNat_sub_of_le _ _ hle]
    simp only [UInt8.reduceToNat]
    omega
  rw [hr]
  refine ⟨?_, dec2bcd_eq_bcd _, dec2bcd_eq_bcd _, dec2bcd_eq_bcd _, dec2bcd_eq_bcd _, ?_⟩
  · show dec2bcd _ &&& 0x7f = _
    rw [dec2bcd_eq_bcd]
    exact bcd_and_second_mask (dateTimeOf u hu).second_le
  · show dec2bcd (tmYearToY2k _) = _
    rw [dec2bcd_eq_bcd, hsub]
    rfl

/-- These times compare as the seconds do. -/
lemma dateTimeOf_lt_iff {u u' : UInt32} (hu : InCentury u.toNat) (hu' : InCentury u'.toNat) :
    (dateTimeOf u hu).tuple < (dateTimeOf u' hu').tuple ↔ u < u' := by
  rw [UInt32.lt_iff_toNat_lt, (breakTime_shows u).lt_iff (breakTime_shows u')]
  simp only [DateTime.tuple, dateTimeOf, Calendar.Reading.tuple, tmElements_t.reading,
    List.cons_lt_cons_iff, Nat.add_lt_add_iff_right, Nat.add_right_cancel_iff]

end DS1307RTC

namespace Telemetry

open DS1307RTC Satsumaimo3

/-- What a poll logs that finds a frame made when the chip showed second `u`, and whatever
follows it. -/
lemma logs_frame (A : Arduino) {r : Chip} {u : UInt32} (hu : InCentury u.toNat)
    (hr : r.ShowsTime u) (s : Satsumaimo1.State)
    {p : Satsumaimo1.Pass} (hp : p.wire = .ofRegisters r.registers) (q : Satsumaimo3.State)
    {c : Chunk} (hc : (Satsumaimo1.loop A s p).2 <+: c.val) :
    ((∃ row, (Satsumaimo3.loop q c).datalog = q.datalog ++ [row]) ↔ Even u.toNat) ∧
      ∀ row, (Satsumaimo3.loop q c).datalog = q.datalog ++ [row] →
        row.take 19 = (dateTimeOf u hu).stamp := by
  have hMoji : Lies (fill q.Moji c.val) 0 (Satsumaimo1.loop A s p).2 := by
    obtain ⟨more, hmore⟩ := hc
    have hlies := lies_fill q.Moji c.val
    rw [← hmore, lies_append_iff] at hlies
    rw [← hmore]
    exact hlies.1
  have htake := take_row A (holds_of_showsTime hu hr) s hp hMoji
  have heven : Even (dateTimeOf u hu).second ↔ Even u.toNat := by
    show Even (breakTime u).reading.second ↔ _
    rw [(breakTime_shows u).second, Nat.even_iff, Nat.even_iff]
    omega
  simp only [loop_logs_iff, exists_and_left, exists_eq, and_true]
  exact ⟨(gate_iff_even_second htake).trans heven, fun row h => h.2 ▸ htake⟩

/-- Two frames that the sender makes `n` and `n'` seconds after its clock was set, each found
by one poll of the logger: a row is logged iff the second is even, and two such rows sort as
`n` and `n'` do. -/
theorem rows_sort_by_seconds (A : Arduino) {tick : Chip → Chip} (htick : KeepsTime tick)
    {t : UInt32} {a₁ a₂ : Attempt} (h₁ : a₁.Honest 8) (h₂ : a₂.Honest 2) {r : Chip}
    (hok : (set tick t a₁ a₂ r).ok = true) {n n' : ℕ} (ht : InCentury t.toNat)
    (hn : InCentury (t.toNat + (a₂.gaps 2 + n))) (hn' : InCentury (t.toNat + (a₂.gaps 2 + n')))
    (s s' : Satsumaimo1.State) {p p' : Satsumaimo1.Pass}
    (hp : p.wire = .ofRegisters (Chip.registers (tick^[n] (set tick t a₁ a₂ r).chip)))
    (hp' : p'.wire = .ofRegisters (Chip.registers (tick^[n'] (set tick t a₁ a₂ r).chip)))
    (q q' : Satsumaimo3.State) {c c' : Chunk} (hc : (Satsumaimo1.loop A s p).2 <+: c.val)
    (hc' : (Satsumaimo1.loop A s' p').2 <+: c'.val) :
    ((∃ row, (Satsumaimo3.loop q c).datalog = q.datalog ++ [row]) ↔
      Even (t.toNat + (a₂.gaps 2 + n))) ∧
    ∀ row row', (Satsumaimo3.loop q c).datalog = q.datalog ++ [row] →
      (Satsumaimo3.loop q' c').datalog = q'.datalog ++ [row'] →
      (row.take 19 < row'.take 19 ↔ n < n') := by
  obtain ⟨hlogs, htake⟩ :=
    logs_frame A hn.add (showsTime_of_set htick h₁ h₂ hok ht hn) s hp q hc
  have htake' := (logs_frame A hn'.add (showsTime_of_set htick h₁ h₂ hok ht hn') s' hp' q' hc').2
  refine ⟨by rw [hlogs, hn.toNat_add], fun row row' hrow hrow' => ?_⟩
  rw [htake row hrow, htake' row' hrow', (sorts_stamp _ _).1, dateTimeOf_lt_iff,
    UInt32.lt_iff_toNat_lt, hn.toNat_add, hn'.toNat_add]
  omega

/-- A chip that is set to noon of 1 July 2016. -/
def chipAtNoon : Chip := (set Chip.count 1467374400 undisturbed undisturbed fun _ => 0x80).chip

/-- A first pass so many seconds later. -/
def passAfter (n : ℕ) : Satsumaimo1.Pass :=
  { Satsumaimo1.passAt 0 0 0 0 with
    wire := .ofRegisters (Chip.registers (Chip.count^[n] chipAtNoon)) }

/-- What the logger finds of it: the frame with the relay's text behind it. -/
def pollAfter (n : ℕ) : Chunk :=
  ⟨((Satsumaimo1.loop (.halfUp fun _ => 20) Satsumaimo1.setup (passAfter n)).2 ++
    text "24.5").take 40, List.length_take_le ..⟩

/-- The row of noon sorts before the row of a minute later. -/
theorem noon_before_a_minute_later :
    ∃ row row', (Satsumaimo3.loop Satsumaimo3.setup (pollAfter 0)).datalog = [header, row] ∧
      (Satsumaimo3.loop Satsumaimo3.setup (pollAfter 60)).datalog = [header, row'] ∧
      row.take 19 < row'.take 19 := by
  have hlogged (n : ℕ) (hgate : gate (fill (fun _ => 0) (pollAfter n).val)) :
      (Satsumaimo3.loop Satsumaimo3.setup (pollAfter n)).datalog =
        Satsumaimo3.setup.datalog ++ [(slots (fill (fun _ => 0) (pollAfter n).val)).row] :=
    (loop_logs_iff _ _ _).mpr ⟨hgate, rfl⟩
  have hnoon := hlogged 0 (by decide +kernel)
  have hlater := hlogged 60 (by decide +kernel)
  exact ⟨_, _, hnoon, hlater,
    ((rows_sort_by_seconds (.halfUp fun _ => 20) keepsTime_count (t := 1467374400)
      (fun _ => le_rfl) (fun _ => by decide) rfl ⟨by decide, by decide⟩ ⟨by decide, by decide⟩
      ⟨by decide, by decide⟩ Satsumaimo1.setup Satsumaimo1.setup
      (show (passAfter 0).wire = _ from rfl) (show (passAfter 60).wire = _ from rfl)
      Satsumaimo3.setup Satsumaimo3.setup (show _ <+: (pollAfter 0).val by decide +kernel)
      (show _ <+: (pollAfter 60).val by decide +kernel)).2 _ _ hnoon hlater).mpr (by norm_num)⟩

end Telemetry
end ArduinoProjects
