import ArduinoProjects.Satsumaimo1.Sketch

/-!
# The valves over whole runs

A run is an arbitrary sequence of passes from `setup()`. Two pieces of state carry its
past into a pass: the latch, which is a `Since` of the history (`latch_open_iff`), and
the water temperature, which is a `held` of it (`after_suion`). With these the outputs at
the end of every pass are a closed function of the history (`valves_exact`), and what
the flag byte and an open valve say about the past can be read off.
-/

namespace ArduinoProjects.Satsumaimo1

open Util

variable (A : Arduino) (inp : ℕ → Pass)

/-! ## Runs and their history -/

/-- The state before pass `n`. -/
def before (n : ℕ) : State := run (fun s p => (loop A s p).1) setup inp n

/-- The state at the end of pass `n`. -/
def after (n : ℕ) : State := before A inp (n + 1)

/-- The bytes sent in pass `n`. -/
def sent (n : ℕ) : List UInt8 := (loop A (before A inp n) (inp n)).2

/-- A wet reading at or before pass `n` that no earlier pass has cleared at 11 o'clock. -/
def Blocked (n : ℕ) : Prop :=
  Since (fun k => 750 ≤ (inp k).suibun) (fun j => (inp j).tm.Hour = 11) n

/-- Pass `m` is in an odd second and reads a word without the fault bit. -/
def Sampled (m : ℕ) : Prop := (inp m).tm.Second % 2 = 1 ∧ (inp m).spi.word % 2 = 0

instance : DecidablePred (Sampled inp) := fun _ => inferInstanceAs (Decidable (_ ∧ _))

/-- The signed temperature of the word pass `m` reads, in degrees. -/
def reading (m : ℕ) : ℚ := Thermocouple.quarters (UInt16.ofNat (inp m).spi.word) / 4

/-- The water temperature the history up to pass `n` leaves. -/
def heldSuion (n : ℕ) : ℚ := held (Sampled inp) (reading inp) 0 n

/-- The passes that open the drain. -/
def Draining (n : ℕ) : Prop :=
  InWindow (inp n).tm.Hour ∧ ¬ Blocked inp n ∧ ¬ heldSuion inp n < 31

/-! ## The state, one pass at a time -/

/-- One step of the latch. -/
lemma before_succ_Denji (n : ℕ) :
    (before A inp (n + 1)).Denji =
      if (inp n).tm.Hour = 11 then 0 else (latchWet (before A inp n) (inp n).suibun).Denji := by
  show (loop A (before A inp n) (inp n)).1.Denji = _
  simp only [loop, clearAtEleven_Denji, driveValves_Denji, measure_Denji]

/-- One step of the water temperature. -/
lemma before_succ_suion (n : ℕ) :
    (before A inp (n + 1)).suion =
      if Sampled inp n then reading inp n else (before A inp n).suion := by
  show (loop A (before A inp n) (inp n)).1.suion = _
  simp only [loop, clearAtEleven_suion, driveValves_suion, measure_suion, latchWet_suion,
    Thermocouple.decode_eq, SpiReply.not_fault_iff, SpiReply.thermocouple_eq]
  rfl

/-- The valve decision of pass `n` finds the latch open iff the pass is not blocked. -/
lemma latch_open_iff (n : ℕ) :
    (latchWet (before A inp n) (inp n).suibun).Denji = 0 ↔ ¬ Blocked inp n := by
  induction n with
  | zero =>
    -- `setup()` leaves the latch open
    rw [latchWet_Denji, Blocked, since_zero]
    by_cases h : 750 ≤ (inp 0).suibun
    · simp [h]
    · simp [h, before, setup]
  | succ n ih =>
    rw [latchWet_Denji, before_succ_Denji, Blocked, since_succ]
    by_cases h : 750 ≤ (inp (n + 1)).suibun
    · simp [h]
    · -- a dry pass finds what the pass before left, after its hour-11 test
      by_cases h11 : (inp n).tm.Hour = 11
      · simp [h, h11]
      · simp only [h, h11, if_false, false_or, not_false_eq_true, and_true]
        exact ih

/-- The water temperature is a sample-and-hold of the readings. -/
lemma after_suion (n : ℕ) : (after A inp n).suion = heldSuion inp n :=
  eq_held (fun n => (before A inp n).suion) (before_succ_suion A inp) n

/-- What `measure` hands to the valve branches is what the pass ends with. -/
lemma measured_suion (n : ℕ) :
    (measure (latchWet (before A inp n) (inp n).suibun) (inp n).tm.Second (inp n).spi).suion =
      heldSuion inp n := by
  rw [← after_suion A]
  show _ = (loop A (before A inp n) (inp n)).1.suion
  simp only [loop, clearAtEleven_suion, driveValves_suion]

/-- When the valve for the potatoes is open. -/
lemma after_DENJI1 (n : ℕ) :
    (after A inp n).pins DENJI1 = .HIGH ↔
      InWindow (inp n).tm.Hour ∧ ¬ Blocked inp n ∧ heldSuion inp n < 31 := by
  show (loop A (before A inp n) (inp n)).1.pins DENJI1 = .HIGH ↔ _
  rw [loop, clearAtEleven_pins, driveValves_DENJI1, measured_suion, measure_Denji,
    latch_open_iff]

/-- A pass drains in terms of the inputs. -/
lemma drains_iff (n : ℕ) :
    Drains (measure (latchWet (before A inp n) (inp n).suibun) (inp n).tm.Second (inp n).spi)
      (inp n).tm.Hour ↔ Draining inp n := by
  rw [Drains, measured_suion, measure_Denji, latch_open_iff, Draining]

/-- When the drain valve is open. -/
lemma after_DENJI2 (n : ℕ) :
    (after A inp n).pins DENJI2 = .HIGH ↔ Draining inp n := by
  show (loop A (before A inp n) (inp n)).1.pins DENJI2 = .HIGH ↔ _
  rw [loop, clearAtEleven_pins, driveValves_DENJI2, drains_iff]

/-- A draining pass keeps the flag byte, every other pass sets it by the first valve. -/
lemma after_S1_of_draining {n : ℕ} (h : Draining inp n) :
    (after A inp n).S1 = (before A inp n).S1 := by
  show (loop A (before A inp n) (inp n)).1.S1 = _
  simp only [loop, clearAtEleven_S1]
  rw [driveValves_S1, if_pos ((drains_iff A inp n).mpr h), measure_S1, latchWet_S1]

lemma after_S1_of_not_draining {n : ℕ} (h : ¬ Draining inp n) :
    (after A inp n).S1 =
      if (after A inp n).pins DENJI1 = .HIGH then ascii 'O' else ascii 'X' := by
  show (loop A (before A inp n) (inp n)).1.S1 =
    if (loop A (before A inp n) (inp n)).1.pins DENJI1 = .HIGH then _ else _
  simp only [loop, clearAtEleven_S1, clearAtEleven_pins]
  rw [driveValves_S1, if_neg (fun hd => h ((drains_iff A inp n).mp hd))]

/-! ## The outputs as a function of the history -/

/-- The levels of the two valves at the end of every pass of every run. -/
theorem valves_exact (n : ℕ) :
    ((after A inp n).pins DENJI1 = .HIGH ↔
      InWindow (inp n).tm.Hour ∧ ¬ Blocked inp n ∧ heldSuion inp n < 31) ∧
    ((after A inp n).pins DENJI2 = .HIGH ↔
      InWindow (inp n).tm.Hour ∧ ¬ Blocked inp n ∧ 31 ≤ heldSuion inp n) ∧
    ¬ ((after A inp n).pins DENJI1 = .HIGH ∧ (after A inp n).pins DENJI2 = .HIGH) := by
  refine ⟨after_DENJI1 A inp n, ?_, ?_⟩
  · rw [after_DENJI2, Draining, not_lt]
  · rw [after_DENJI1, after_DENJI2, Draining]
    exact fun h => h.2.2.2 h.1.2.2

/-! ## What an open valve says about the sensor -/

/-- A pass at a given hour and second (as the BCD registers hold them) of 1 July 2016 in
dry soil, with a given thermocouple word. -/
def passAt (hour second high low : UInt8) : Pass where
  kion := 512
  suibun := 300
  okujyou := 512
  wire := .ofRegisters ⟨second, 0x00, hour, 0x06, 0x01, 0x07, 0x16⟩
  stack := ⟨0, 0, 0, 0, 0, 0, 0⟩
  spi := ⟨high, low, 0, 0⟩

/-- The first valve opens on the latest fault-free reading, or before there is any. -/
theorem open_valve_reading (n : ℕ) (h : (after A inp n).pins DENJI1 = .HIGH) :
    (∀ m ≤ n, ¬ Sampled inp m) ∨
      ∃ m ≤ n, Sampled inp m ∧ (∀ k, m < k → k ≤ n → ¬ Sampled inp k) ∧ reading inp m < 31 := by
  have hcold : heldSuion inp n < 31 := ((after_DENJI1 A inp n).mp h).2.2
  cases hlast : latest (Sampled inp) n with
  | none => exact Or.inl ((latest_eq_none_iff _ n).mp hlast)
  | some m =>
    obtain ⟨hm, hs, hnone⟩ := (latest_eq_some_iff _ n m).mp hlast
    rw [heldSuion, held_of_latest hlast] at hcold
    exact Or.inr ⟨m, hm, hs, hnone, hcold⟩

/-- A first pass at hour 5 with the water at 25 degrees. -/
theorem open_valve_reading_at_25 :
    (after (.halfUp fun _ => 20) (fun _ => passAt 0x05 0x01 0x01 0x90) 0).pins DENJI1 = .HIGH ∧
      ((∀ m ≤ 0, ¬ Sampled (fun _ => passAt 0x05 0x01 0x01 0x90) m) ∨
        ∃ m ≤ 0, Sampled (fun _ => passAt 0x05 0x01 0x01 0x90) m ∧
          (∀ k, m < k → k ≤ 0 → ¬ Sampled (fun _ => passAt 0x05 0x01 0x01 0x90) k) ∧
          reading (fun _ => passAt 0x05 0x01 0x01 0x90) m < 31) :=
  ⟨by decide +kernel, open_valve_reading (.halfUp fun _ => 20) _ 0 (by decide +kernel)⟩

/-- In an even second right after power-up the valve opens on no reading at all. -/
theorem open_valve_without_reading :
    ¬ ∀ (A : Arduino) (inp : ℕ → Pass) (n : ℕ), (after A inp n).pins DENJI1 = .HIGH →
      ∃ m ≤ n, Sampled inp m ∧ (∀ k, m < k → k ≤ n → ¬ Sampled inp k) ∧ reading inp m < 31 := by
  intro h
  obtain ⟨m, -, hs, -⟩ := h (.halfUp fun _ => 20) (fun _ => passAt 0x05 0x00 0 0) 0
    (by decide +kernel)
  have heven : ¬ (passAt 0x05 0x00 0 0).tm.Second % 2 = 1 := by decide
  exact heven hs.1

/-! ## What the flag byte says about the first valve -/

/-- The last byte of pass `n` is `'O'` or `'X'` as the first valve ends open or shut. -/
def FlagTruthful (n : ℕ) : Prop :=
  (sent A inp n).getLast? =
    some (if (after A inp n).pins DENJI1 = .HIGH then ascii 'O' else ascii 'X')

/-- The flag is the last byte of a frame. -/
lemma sent_getLast (n : ℕ) : (sent A inp n).getLast? = some (after A inp n).S1 := by
  have hsend (f : Fields) : f.send.getLast? = some f.flag := List.getLast?_concat
  rw [sent, loop, hsend]
  rfl

/-- The flag of one pass: a draining pass reports what an earlier pass left. -/
lemma flagTruthful_iff (n : ℕ) :
    FlagTruthful A inp n ↔ (Draining inp n → (before A inp n).S1 = ascii 'X') := by
  rw [FlagTruthful, sent_getLast, Option.some.injEq]
  by_cases hd : Draining inp n
  · -- the flag is the old one, the first valve is shut
    have hshut : ¬ (after A inp n).pins DENJI1 = .HIGH := by
      rw [after_DENJI1]
      exact fun h => hd.2.2 h.2.2
    rw [after_S1_of_draining A inp hd, if_neg hshut]
    exact ⟨fun h _ => h, fun h => h hd⟩
  · exact iff_of_true (after_S1_of_not_draining A inp hd) (fun h => absurd h hd)

/-- The passes that open the first valve. -/
def Opening (n : ℕ) : Prop :=
  InWindow (inp n).tm.Hour ∧ ¬ Blocked inp n ∧ heldSuion inp n < 31

/-- What a draining pass finds behind a pass that does not drain. -/
lemma after_S1_eq_iff {n : ℕ} (h : ¬ Draining inp n) :
    (after A inp n).S1 = ascii 'X' ↔ ¬ Opening inp n := by
  have hne : ascii 'O' ≠ ascii 'X' := by decide
  rw [after_S1_of_not_draining A inp h, Opening, ← after_DENJI1 A]
  split
  · next hopen => exact iff_of_false hne (not_not_intro hopen)
  · next hshut => exact iff_of_true rfl hshut

/-- Every draining pass finds `'X'` iff the first pass does not drain and none drains right
behind one that opens the first valve. -/
lemma forall_S1_iff :
    (∀ n, Draining inp n → (before A inp n).S1 = ascii 'X') ↔
      ¬ Draining inp 0 ∧ ∀ n, Draining inp (n + 1) → ¬ Opening inp n := by
  have hboot : (before A inp 0).S1 ≠ ascii 'X' := by
    show (0 : UInt8) ≠ ascii 'X'
    decide
  constructor
  · intro h
    refine ⟨fun hd => hboot (h 0 hd), fun n hd hopen => ?_⟩
    have hflag : (after A inp n).S1 = ascii 'X' := h (n + 1) hd
    exact (after_S1_eq_iff A inp fun hd' => hd'.2.2 hopen.2.2).mp hflag hopen
  · intro ⟨hfirst, hbehind⟩ n hd
    induction n with
    | zero => exact absurd hd hfirst
    | succ n ih =>
      show (after A inp n).S1 = ascii 'X'
      by_cases hprev : Draining inp n
      · rw [after_S1_of_draining A inp hprev, ih hprev]
      · exact (after_S1_eq_iff A inp hprev).mpr (hbehind n hd)

/-- A run reports its first valve truthfully iff no pass drains unless the flag byte it
finds is `'X'` already; that is, iff the first pass does not drain and no pass drains right
behind one that opens the valve. -/
theorem flag_truthful_iff :
    ((∀ n, FlagTruthful A inp n) ↔
      ∀ n, InWindow (inp n).tm.Hour ∧ ¬ Blocked inp n ∧ 31 ≤ heldSuion inp n →
        (before A inp n).S1 = ascii 'X') ∧
    ((∀ n, FlagTruthful A inp n) ↔
      ¬ Draining inp 0 ∧ ∀ n, Draining inp (n + 1) → ¬ Opening inp n) := by
  have htruthful : (∀ n, FlagTruthful A inp n) ↔
      ∀ n, Draining inp n → (before A inp n).S1 = ascii 'X' :=
    forall_congr' fun n => flagTruthful_iff A inp n
  refine ⟨?_, htruthful.trans (forall_S1_iff A inp)⟩
  simp only [htruthful, Draining, not_lt]

/-- Five o'clock, cold water first and 40 degrees a second later: the flag stays `'O'`. -/
theorem flag_stale_when_drained :
    ¬ ∀ (A : Arduino) (inp : ℕ → Pass) (n : ℕ), FlagTruthful A inp n := by
  intro h
  have hflag := h (.halfUp fun _ => 20)
    (fun n => if n = 0 then passAt 0x05 0x00 0 0 else passAt 0x05 0x01 0x02 0x80) 1
  rw [FlagTruthful, sent_getLast] at hflag
  revert hflag
  decide +kernel

end ArduinoProjects.Satsumaimo1
