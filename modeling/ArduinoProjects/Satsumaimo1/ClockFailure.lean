import ArduinoProjects.Satsumaimo1.Frame

/-!
# A pass without a clock

`RTC.read` can fail before it fills `tm`, and the sketch goes on with what the stack
held there. This file compares two such passes that differ in that content only. What
the content reaches is exactly: the clock columns of the frame, the hour-11 test where
the latch is set, and the watering windows where it is not (`clock_failure_iff`).
-/

namespace ArduinoProjects.Satsumaimo1

open Util

variable (A : Arduino) (s : State) (p : Pass)

/-- A pass over another content of the stack. -/
def Pass.onStack (p : Pass) (t : tmElements_t) : Pass := { p with stack := t }

/-- Two contents `t`, `t'` of the stack lead to the same valve levels, latch, held
temperature and bytes. -/
def SameOutcome (t t' : tmElements_t) : Prop :=
  (loop A s (p.onStack t)).1.pins DENJI1 = (loop A s (p.onStack t')).1.pins DENJI1 ∧
  (loop A s (p.onStack t)).1.pins DENJI2 = (loop A s (p.onStack t')).1.pins DENJI2 ∧
  (loop A s (p.onStack t)).1.Denji = (loop A s (p.onStack t')).1.Denji ∧
  (loop A s (p.onStack t)).1.suion = (loop A s (p.onStack t')).1.suion ∧
  (loop A s (p.onStack t)).2 = (loop A s (p.onStack t')).2

/-- The latch is set when the valve branches of a pass test it. -/
def Latched : Prop := (latchWet s p.suibun).Denji ≠ 0

variable {p}

/-- When the clock fails, the sketch uses what is on the stack. -/
lemma tm_onStack (hfail : p.wire.Fails) (t : tmElements_t) : (p.onStack t).tm = t := by
  show (DS1307RTC.read p.wire t).2 = t
  rw [DS1307RTC.read_of_fails hfail]

/-- The state before the hour-11 test, for a content `t` of the stack. -/
def driven (p : Pass) (t : tmElements_t) : State :=
  driveValves (measure (latchWet s p.suibun) t.Second p.spi) t.Hour

/-- A pass on that content. -/
lemma loop_onStack (hfail : p.wire.Fails) (t : tmElements_t) :
    loop A s (p.onStack t) =
      (clearAtEleven (driven s p t) t.Hour,
        (frame A t (A.airTemp p.kion) p.suibun (driven s p t).suion (nikkou p.okujyou)
          (driven s p t).S1).send) := by
  simp only [loop, tm_onStack hfail, clearAtEleven_suion, clearAtEleven_S1]
  rfl

/-- The latch does not depend on the clock before the valves are driven. -/
lemma driven_Denji (t : tmElements_t) : (driven s p t).Denji = (latchWet s p.suibun).Denji := by
  rw [driven, driveValves_Denji, measure_Denji]

/-! ## What one content decides -/

/-- The clock columns end in the parity of the second. -/
lemma odd_second_of_timeText {t t' : tmElements_t} (h : timeText t = timeText t') :
    t.Second % 2 = 1 ↔ t'.Second % 2 = 1 := by
  obtain ⟨l, hl⟩ := column_eq_concat 2 t.Second.toNat
  obtain ⟨l', hl'⟩ := column_eq_concat 2 t'.Second.toNat
  rw [timeText, timeText, hl, hl', ← List.append_assoc, ← List.append_assoc] at h
  have hdigit := (List.cons.inj (List.append_inj' h rfl).2).1
  have hmod := (digit_inj (Nat.mod_lt _ (by norm_num)) (Nat.mod_lt _ (by norm_num))).mp hdigit
  rw [← UInt8.toNat_inj, ← UInt8.toNat_inj, UInt8.toNat_mod, UInt8.toNat_mod]
  show t.Second.toNat % 2 = 1 ↔ t'.Second.toNat % 2 = 1
  omega

/-- With the latch set the valve branches do not look at the hour. -/
lemma driveValves_of_latched {s : State} (h : s.Denji ≠ 0) (hour hour' : UInt8) :
    driveValves s hour = driveValves s hour' := by
  unfold driveValves
  simp only [h, if_false, ite_self]

/-- Otherwise they look at it through the watering windows only. -/
lemma driveValves_of_window {hour hour' : UInt8} (s : State)
    (h : InWindow hour ↔ InWindow hour') : driveValves s hour = driveValves s hour' := by
  unfold driveValves
  simp only [h]

/-- With the latch open, some valve is open exactly in a window. -/
lemma inWindow_iff {s : State} (h : s.Denji = 0) (hour : UInt8) :
    InWindow hour ↔
      (driveValves s hour).pins DENJI1 = .HIGH ∨ (driveValves s hour).pins DENJI2 = .HIGH := by
  rw [driveValves_DENJI1, driveValves_DENJI2, Drains]
  by_cases hcold : s.suion < 31 <;> simp [h, hcold]

/-- Clearing an open latch changes nothing. -/
lemma clearAtEleven_of_open {s : State} (h : s.Denji = 0) (hour : UInt8) :
    clearAtEleven s hour = s := by
  unfold clearAtEleven
  split
  · rw [← h]
  · rfl

/-! ## Two contents -/

/-- The frames of two contents agree iff the clock columns and the flag do. -/
lemma send_frame_eq_iff (t t' : tmElements_t) (T : ℚ) (suibun : ℕ) (suion O : ℚ)
    (flag flag' : UInt8) :
    (frame A t T suibun suion O flag).send = (frame A t' T suibun suion O flag').send ↔
      timeText t = timeText t' ∧ flag = flag' := by
  rw [frame, frame, send_fieldsOf, send_fieldsOf]
  simp only [Fields.measurements, fieldsOf]
  constructor
  · intro h
    obtain ⟨htime, hrest⟩ := List.append_inj' h
      (by simp only [List.length_append, List.length_cons])
    refine ⟨htime, ?_⟩
    simpa using hrest
  · intro h
    rw [h.1, h.2]

/-- The whole outcome is one, the flag byte included, if the content passes the tests. -/
lemma loop_onStack_congr (hfail : p.wire.Fails) {t t' : tmElements_t}
    (htime : timeText t = timeText t') (hset : Latched s p → (t.Hour = 11 ↔ t'.Hour = 11))
    (hopen : ¬ Latched s p → (InWindow t.Hour ↔ InWindow t'.Hour)) :
    loop A s (p.onStack t) = loop A s (p.onStack t') := by
  have hmeasure : measure (latchWet s p.suibun) t.Second p.spi =
      measure (latchWet s p.suibun) t'.Second p.spi := by
    unfold measure
    simp only [odd_second_of_timeText htime]
  -- the second is the same up to parity, so both passes sample or neither does
  have hdriven : driven s p t = driven s p t' := by
    rw [driven, driven, hmeasure]
    by_cases hl : Latched s p
    · exact driveValves_of_latched (by rw [measure_Denji]; exact hl) _ _
    · exact driveValves_of_window _ (hopen hl)
  have hclear : clearAtEleven (driven s p t') t.Hour = clearAtEleven (driven s p t') t'.Hour := by
    by_cases hl : Latched s p
    · unfold clearAtEleven
      simp only [hset hl]
    · -- there is no latch to clear
      have h0 : (driven s p t').Denji = 0 := by
        rw [driven_Denji]
        exact not_not.mp hl
      rw [clearAtEleven_of_open h0, clearAtEleven_of_open h0]
  rw [loop_onStack A s hfail, loop_onStack A s hfail, hdriven, hclear]
  exact congrArg _ ((send_frame_eq_iff A t t' _ _ _ _ _ _).mpr ⟨htime, rfl⟩)

/-- The outputs after such a pass. -/
lemma loop_onStack_pins (hfail : p.wire.Fails) (t : tmElements_t) :
    (loop A s (p.onStack t)).1.pins = (driven s p t).pins := by
  rw [loop_onStack A s hfail, clearAtEleven_pins]

/-- The latch after such a pass: hour 11 clears it. -/
lemma loop_onStack_Denji (hfail : p.wire.Fails) (t : tmElements_t) :
    (loop A s (p.onStack t)).1.Denji =
      if t.Hour = 11 then 0 else (latchWet s p.suibun).Denji := by
  rw [loop_onStack A s hfail, clearAtEleven_Denji, driven_Denji]

/-- With the latch open, the levels tell the windows. -/
lemma inWindow_iff_of_pins (hfail : p.wire.Fails) (hopen : ¬ Latched s p) (t : tmElements_t) :
    InWindow t.Hour ↔ (loop A s (p.onStack t)).1.pins DENJI1 = .HIGH ∨
      (loop A s (p.onStack t)).1.pins DENJI2 = .HIGH := by
  rw [loop_onStack_pins A s hfail]
  apply inWindow_iff
  rw [measure_Denji]
  exact not_not.mp hopen

/-- Two passes without a clock agree iff their stack contents show the same clock columns,
and the same answer to the one hour test that the latch leaves to decide something. -/
theorem clock_failure_iff (hfail : p.wire.Fails) (t t' : tmElements_t) :
    SameOutcome A s p t t' ↔
      timeText t = timeText t' ∧
      (Latched s p → (t.Hour = 11 ↔ t'.Hour = 11)) ∧
      (¬ Latched s p → (InWindow t.Hour ↔ InWindow t'.Hour)) := by
  constructor
  · intro ⟨h1, h2, hDenji, hsuion, hbytes⟩
    refine ⟨?_, fun hl => ?_, fun hl => ?_⟩
    · -- with one held temperature the frames can differ in the clock and the flag only
      rw [loop_onStack A s hfail, loop_onStack A s hfail] at hbytes hsuion
      simp only [clearAtEleven_suion] at hsuion hbytes
      rw [hsuion] at hbytes
      exact ((send_frame_eq_iff A t t' _ _ _ _ _ _).mp hbytes).1
    · rw [loop_onStack_Denji A s hfail, loop_onStack_Denji A s hfail] at hDenji
      have hl : (latchWet s p.suibun).Denji ≠ 0 := hl
      by_cases h : t.Hour = 11 <;> by_cases h' : t'.Hour = 11 <;>
        simp_all [eq_comm]
    · rw [inWindow_iff_of_pins A s hfail hl, inWindow_iff_of_pins A s hfail hl, h1, h2]
  · intro ⟨htime, hset, hopen⟩
    rw [SameOutcome, loop_onStack_congr A s hfail htime hset hopen]
    exact ⟨rfl, rfl, rfl, rfl, rfl⟩

/-- A pass whose bus transaction fails, in dry soil. -/
def busError : Pass where
  kion := 512
  suibun := 300
  okujyou := 512
  wire := ⟨4, []⟩
  stack := ⟨0, 0, 0, 0, 0, 0, 0⟩
  spi := ⟨0, 0, 0, 0⟩

/-- A content of the stack, at an hour of 1 July 2016. -/
def stackAt (Hour : UInt8) : tmElements_t := ⟨1, 0, Hour, 6, 1, 7, 46⟩

/-- A bus error on contents of hours 5 and 6. -/
theorem clock_failure_iff_five_six :
    SameOutcome (.halfUp fun _ => 20) setup busError (stackAt 5) (stackAt 6) ↔
      timeText (stackAt 5) = timeText (stackAt 6) ∧
      (Latched setup busError → ((stackAt 5).Hour = 11 ↔ (stackAt 6).Hour = 11)) ∧
      (¬ Latched setup busError → (InWindow (stackAt 5).Hour ↔ InWindow (stackAt 6).Hour)) :=
  clock_failure_iff (.halfUp fun _ => 20) setup (Or.inl (by decide)) (stackAt 5) (stackAt 6)

/-- A stack that reads five o'clock opens the first valve, one that reads midnight does not. -/
theorem clock_failure_opens_valve :
    ¬ ∀ (A : Arduino) (s : State) (p : Pass), p.wire.Fails → ∀ t t' : tmElements_t,
      SameOutcome A s p t t' := by
  intro h
  have hpins := (h (.halfUp fun _ => 20) setup busError (Or.inl (by decide)) (stackAt 5)
    (stackAt 0)).1
  revert hpins
  decide +kernel

end ArduinoProjects.Satsumaimo1
