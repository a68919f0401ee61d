import ArduinoProjects.DS1307RTC
import ArduinoProjects.Thermocouple
import ArduinoProjects.Util.History

/-!
# TEST_Time_and_DENJI

The valve test opens the field's valve in the seconds 0 to 30 and the drain in 31 to 40.
The schedule stands in the branch of a fault-free thermocouple response, so a faulty pass
leaves the valves as they are: the levels are those of the latest fault-free pass
(`after_levels`), and `schedule_iff` says when they are right all the same.
-/

namespace ArduinoProjects.TestTimeAndDENJI

open Util

/-- The first valve. -/
def DENJI1 : ℕ := 2
/-- The drain valve. -/
def DENJI2 : ℕ := 3
/-- An output that stays high. -/
def Test : ℕ := 4
/-- The supply of the thermocouple. -/
def VCC : ℕ := 8
/-- The ground of the thermocouple. -/
def GND : ℕ := 9
/-- The select line of the thermocouple. -/
def SLAVE : ℕ := 10

/-- The flag text and the output levels. -/
structure State where
  S : List UInt8
  pins : Pins

/-- The state after `setup()`. -/
def setup : State where
  S := []
  pins :=
    let pins : Pins := fun _ => .LOW
    let pins := digitalWrite pins GND .LOW
    let pins := digitalWrite pins VCC .HIGH
    let pins := digitalWrite pins SLAVE .HIGH
    let pins := digitalWrite pins DENJI1 .LOW
    let pins := digitalWrite pins DENJI2 .LOW
    digitalWrite pins Test .HIGH

/-- What one pass meets: the sensor's answer, the clock's, and the old content of the
stack under `tm`. -/
structure Pass where
  spi : SpiReply
  wire : DS1307RTC.WireReply
  stack : tmElements_t

/-- What `tm` holds after `RTC.read(tm)`. -/
def Pass.tm (p : Pass) : tmElements_t := (DS1307RTC.read p.wire p.stack).2

/-- The chip answers while `SLAVE` is low. -/
def select (s : State) : State :=
  { s with pins := digitalWrite (digitalWrite s.pins SLAVE .LOW) SLAVE .HIGH }

/-- The three branches on the second. -/
def driveValves (s : State) (Second : UInt8) : State :=
  let s :=
    if 0 ≤ Second ∧ Second ≤ 30 then
      { pins := digitalWrite (digitalWrite s.pins DENJI1 .HIGH) DENJI2 .LOW
        S := text "O" }
    else s
  let s :=
    if 31 ≤ Second ∧ Second ≤ 40 then
      { s with pins := digitalWrite (digitalWrite s.pins DENJI1 .LOW) DENJI2 .HIGH }
    else s
  if 41 ≤ Second ∧ Second ≤ 59 then
    { s with pins := digitalWrite (digitalWrite s.pins DENJI1 .LOW) DENJI2 .LOW }
  else s

/-- One pass, as far as it concerns the outputs. -/
def loop (s : State) (p : Pass) : State :=
  let s := select s
  if p.spi.fault then s else driveValves s p.tm.Second

/-! ## The schedule -/

/-- The levels of the two valves. -/
def levels (s : State) : Level × Level := (s.pins DENJI1, s.pins DENJI2)

/-- The levels that belong to a second: the field's valve up to 30, the drain up to 40. -/
def scheduled (Second : UInt8) : Level × Level :=
  if Second ≤ 30 then (.HIGH, .LOW) else if Second ≤ 40 then (.LOW, .HIGH) else (.LOW, .LOW)

@[simp] lemma levels_select (s : State) : levels (select s) = levels s := by
  have h1 : DENJI1 ≠ SLAVE := by decide
  have h2 : DENJI2 ≠ SLAVE := by decide
  simp only [levels, select, digitalWrite_of_ne _ _ h1, digitalWrite_of_ne _ _ h2]

lemma levels_drive (pins : Pins) (S : List UInt8) (l l' : Level) :
    levels ⟨S, digitalWrite (digitalWrite pins DENJI1 l) DENJI2 l'⟩ = (l, l') := by
  have hne : DENJI1 ≠ DENJI2 := by decide
  simp only [levels, digitalWrite_of_ne _ _ hne, digitalWrite_self]

/-- In every second of the minute the branches set the levels that belong to it. -/
lemma levels_driveValves (s : State) {Second : UInt8} (h : Second ≤ 59) :
    levels (driveValves s Second) = scheduled Second := by
  have hnat (k : UInt8) : k ≤ Second ↔ k.toNat ≤ Second.toNat := UInt8.le_iff_toNat_le
  have hnat' (k : UInt8) : Second ≤ k ↔ Second.toNat ≤ k.toNat := UInt8.le_iff_toNat_le
  rw [hnat'] at h
  unfold driveValves scheduled
  simp only [hnat, hnat', UInt8.reduceToNat] at h ⊢
  by_cases h30 : Second.toNat ≤ 30
  · rw [if_neg (by omega : ¬ (41 ≤ _ ∧ _)), if_neg (by omega : ¬ (31 ≤ _ ∧ _)),
      if_pos (by omega : 0 ≤ Second.toNat ∧ _), if_pos h30, levels_drive]
  · by_cases h40 : Second.toNat ≤ 40
    · rw [if_neg (by omega : ¬ (41 ≤ _ ∧ _)), if_pos (by omega : 31 ≤ Second.toNat ∧ _),
        if_neg h30, if_pos h40, levels_drive]
    · rw [if_pos (by omega : 41 ≤ Second.toNat ∧ _), if_neg h30, if_neg h40, levels_drive]

/-! ## Runs -/

variable (inp : ℕ → Pass)

/-- The state before pass `n`. -/
def before (n : ℕ) : State := run loop setup inp n

/-- The state at the end of pass `n`. -/
def after (n : ℕ) : State := before inp (n + 1)

/-- Pass `n` gets a response without the fault bit. -/
def FaultFree (n : ℕ) : Prop := ¬ (inp n).spi.fault

instance : DecidablePred (FaultFree inp) := fun _ => inferInstanceAs (Decidable (¬ _))

/-- The levels of the latest fault-free second, both low if there has been none. -/
def heldLevels (n : ℕ) : Level × Level :=
  held (FaultFree inp) (fun m => scheduled (inp m).tm.Second) (.LOW, .LOW) n

lemma levels_setup : levels setup = (.LOW, .LOW) := by
  unfold levels setup
  decide

variable {inp}

/-- One step of the levels. -/
lemma before_succ_levels (h : ∀ n, (inp n).tm.Second ≤ 59) (n : ℕ) :
    levels (before inp (n + 1)) =
      if FaultFree inp n then scheduled (inp n).tm.Second else levels (before inp n) := by
  show levels (loop (before inp n) (inp n)) = _
  rw [loop]
  by_cases hfault : (inp n).spi.fault
  · rw [if_pos hfault, levels_select, if_neg (show ¬ FaultFree inp n from not_not.mpr hfault)]
  · rw [if_neg hfault, levels_driveValves _ (h n), if_pos (show FaultFree inp n from hfault)]

/-- The valves stand as the latest fault-free pass left them. -/
lemma after_levels (h : ∀ n, (inp n).tm.Second ≤ 59) (n : ℕ) :
    levels (after inp n) = heldLevels inp n := by
  have hinit : levels (before inp 0) = (.LOW, .LOW) := levels_setup
  rw [after, heldLevels, ← hinit]
  exact eq_held (fun n => levels (before inp n)) (before_succ_levels h) n

/-- The levels follow the schedule throughout a run iff every faulty pass falls into the
part of the minute in which the latest fault-free one has left the valves. -/
theorem schedule_iff (h : ∀ n, (inp n).tm.Second ≤ 59) :
    (∀ n, levels (after inp n) = scheduled (inp n).tm.Second) ↔
      ∀ n, (inp n).spi.fault → heldLevels inp n = scheduled (inp n).tm.Second := by
  simp only [after_levels h]
  constructor
  · intro hall n _
    exact hall n
  · intro hfaulty n
    by_cases hfault : (inp n).spi.fault
    · exact hfaulty n hfault
    · rw [heldLevels, held_of_pos (show FaultFree inp n from hfault)]

/-- A pass at a given second (as the BCD register holds it) of 5 o'clock on 1 July 2016,
with a given low byte of the thermocouple word. -/
def passAt (second low : UInt8) : Pass where
  spi := ⟨0x01, low, 0, 0⟩
  wire := .ofRegisters ⟨second, 0x00, 0x05, 0x06, 0x01, 0x07, 0x16⟩
  stack := ⟨0, 0, 0, 0, 0, 0, 0⟩

/-- Second 10, and second 35 with an open thermocouple ever after. -/
def openCircuit (n : ℕ) : Pass := if n = 0 then passAt 0x10 0x90 else passAt 0x35 0x91

lemma openCircuit_le (n : ℕ) : (openCircuit n).tm.Second ≤ 59 := by
  unfold openCircuit
  split <;> decide

/-- These passes. -/
theorem schedule_iff_open_circuit :
    (∀ n, levels (after openCircuit n) = scheduled (openCircuit n).tm.Second) ↔
      ∀ n, (openCircuit n).spi.fault →
        heldLevels openCircuit n = scheduled (openCircuit n).tm.Second :=
  schedule_iff openCircuit_le

/-- The fault at second 35 keeps the field's valve open and the drain shut. -/
theorem fault_keeps_valve_open :
    ¬ ∀ inp : ℕ → Pass, (∀ n, (inp n).tm.Second ≤ 59) →
      ∀ n, levels (after inp n) = scheduled (inp n).tm.Second := by
  intro h
  have hlevels := h openCircuit openCircuit_le 1
  revert hlevels
  decide +kernel

end ArduinoProjects.TestTimeAndDENJI
