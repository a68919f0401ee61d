import ArduinoProjects.Osc.Receiver

/-!
# The board behind the receiver

`oscReceiveMessageInt` obeys a message. For every pin the board keeps a bit of its own in
`pinDir` for the direction that it has given the pin. A reset makes every pin an input and
leaves those bits as they are: `pinDir_iff` says in which runs they are right.
-/

namespace ArduinoProjects.Osc

open Util

/-! ## Bits -/

/-- `x & (1 << i)` as a condition. -/
def bit (x : UInt16) (i : ℕ) : Bool := x &&& (1 <<< UInt16.ofNat i) ≠ 0

/-- `x | (1 << i)` -/
def withBit (x : UInt16) (i : ℕ) : UInt16 := x ||| (1 <<< UInt16.ofNat i)

/-- `x & ~(1 << i)` -/
def withoutBit (x : UInt16) (i : ℕ) : UInt16 := x &&& ~~~(1 <<< UInt16.ofNat i)

/-- A mask with one bit. -/
lemma toBitVec_one_shift {i : ℕ} (hi : i < 16) :
    ((1 : UInt16) <<< UInt16.ofNat i).toBitVec = BitVec.twoPow 16 i := by
  interval_cases i <;> decide

/-- The bit as the hardware sees it. -/
lemma bit_eq (x : UInt16) {i : ℕ} (hi : i < 16) : bit x i = x.toBitVec.getLsbD i := by
  have hne : BitVec.twoPow 16 i ≠ 0#16 := by
    interval_cases i <;> decide
  rw [Bool.eq_iff_iff, bit, decide_eq_true_iff, ne_eq, ← UInt16.toBitVec_inj, UInt16.toBitVec_and,
    toBitVec_one_shift hi, BitVec.and_twoPow]
  cases x.toBitVec.getLsbD i
  · simp
  · simpa using hne

/-- Setting a bit changes this bit only. -/
lemma bit_withBit (x : UInt16) {i j : ℕ} (hi : i < 16) (hj : j < 16) :
    bit (withBit x j) i = (bit x i || decide (i = j)) := by
  rw [bit_eq _ hi, bit_eq _ hi, withBit, UInt16.toBitVec_or, toBitVec_one_shift hj,
    BitVec.getLsbD_or, BitVec.getLsbD_twoPow]
  grind

/-- Clearing a bit changes this bit only. -/
lemma bit_withoutBit (x : UInt16) {i j : ℕ} (hi : i < 16) (hj : j < 16) :
    bit (withoutBit x j) i = (bit x i && decide (i ≠ j)) := by
  rw [bit_eq _ hi, bit_eq _ hi, withoutBit, UInt16.toBitVec_and, UInt16.toBitVec_not,
    toBitVec_one_shift hj, BitVec.getLsbD_and, BitVec.getLsbD_not, BitVec.getLsbD_twoPow]
  grind

/-! ## The board -/

/-- Pins 0 and 1 are the serial port. -/
def FIRST_DIGITAL_PIN : ℕ := 2
/-- The last digital pin in use. -/
def LAST_DIGITAL_PIN : ℕ := 12
/-- The number of digital pins. -/
def NUM_DIGITAL_PINS : ℕ := 11
/-- The first analog channel. -/
def FIRST_ANALOG_PIN : ℕ := 0
/-- The last analog channel. -/
def LAST_ANALOG_PIN : ℕ := 5
/-- The number of analog channels. -/
def NUM_ANALOG_PINS : ℕ := 6

/-- What `pinMode` makes of a pin. -/
inductive PinMode
  | INPUT
  | OUTPUT
deriving DecidableEq

/-- The address that turns reports on and off. -/
def prefixReport : List UInt8 := text "/report/"
/-- The address that sets the mode of a pin. -/
def prefixPinmode : List UInt8 := text "/pinmode/"
/-- The address that sets a digital level. -/
def prefixOut : List UInt8 := text "/out/"
/-- The address that sets a duty cycle. -/
def prefixPwm : List UInt8 := text "/pwm/"
/-- The address of a report of a digital pin. -/
def prefixIn : List UInt8 := text "/in/"
/-- The address of a report of an analog channel. -/
def prefixA2d : List UInt8 := text "/adc/"
/-- The address that resets the board. -/
def prefixReset : List UInt8 := text "/reset"

/-- The variables of the sketch, the direction and the output level of every pin, and the
duty of a pin that `analogWrite` has set. -/
structure Board where
  inputBuffer : UInt16
  a2dBuffer : ℕ → ℕ
  pinDir : UInt16
  reportAnalog : UInt8
  reportDigital : Bool
  k : ℕ
  rx : Rx
  modes : ℕ → PinMode
  pins : Pins
  duty : ℕ → UInt8

/-- The pins of the loops over the digital pins. -/
def digitalPins : List ℕ := List.range' FIRST_DIGITAL_PIN NUM_DIGITAL_PINS

/-- What `setup()` does to the pins, also for a reset. -/
def Board.setup (b : Board) : Board :=
  { b with
    reportAnalog := 0x00
    reportDigital := true
    modes := digitalPins.foldl (fun modes i => Function.update modes i .INPUT) b.modes
    pins := digitalPins.foldl (fun pins i => digitalWrite pins i .HIGH) b.pins }

/-- The board behind `setup()`. -/
def Board.start : Board :=
  Board.setup {
    inputBuffer := 0xFFFF
    a2dBuffer := fun _ => 0
    pinDir := 0x0000
    reportAnalog := 0x00
    reportDigital := true
    k := FIRST_ANALOG_PIN
    rx := .start
    modes := fun _ => .INPUT
    pins := fun _ => .LOW
    duty := fun _ => 0 }

/-- The pins that messages may be about. -/
def IsDigitalPin (outPin : ℤ) : Prop := FIRST_DIGITAL_PIN ≤ outPin ∧ outPin ≤ LAST_DIGITAL_PIN

instance (outPin : ℤ) : Decidable (IsDigitalPin outPin) := inferInstanceAs (Decidable (_ ∧ _))

/-- Handle a message. What `atoi` makes of a text is left open. -/
def oscReceiveMessageInt (atoi : List UInt8 → ℤ) (b : Board) (msg : List UInt8)
    (value : UInt32) : Board :=
  let rest := msg.drop (prefixReport.length - 1)
  if prefixOut.isPrefixOf msg then
    let outPin := atoi (msg.drop prefixOut.length)
    if IsDigitalPin outPin then
      { b with
        pins := digitalWrite b.pins outPin.toNat (if value &&& 0x01 ≠ 0 then .HIGH else .LOW) }
    else b
  else if prefixPwm.isPrefixOf msg then
    let outPin := atoi (msg.drop prefixPwm.length)
    if IsDigitalPin outPin then
      { b with
        pinDir := withBit b.pinDir outPin.toNat
        modes := Function.update b.modes outPin.toNat .OUTPUT
        duty := Function.update b.duty outPin.toNat value.toUInt8 }
    else b
  else if prefixReport.isPrefixOf msg ∧ (prefixIn.take (prefixIn.length - 1)).isPrefixOf rest then
    { b with reportDigital := value ≠ 0 }
  else if prefixReport.isPrefixOf msg ∧ prefixA2d.isPrefixOf rest then
    let outPin := atoi (rest.drop prefixA2d.length)
    if FIRST_ANALOG_PIN ≤ outPin ∧ outPin ≤ LAST_ANALOG_PIN then
      if value = 0 then
        { b with reportAnalog := (withoutBit b.reportAnalog.toUInt16 outPin.toNat).toUInt8 }
      else { b with reportAnalog := (withBit b.reportAnalog.toUInt16 outPin.toNat).toUInt8 }
    else b
  else if prefixReport.isPrefixOf msg ∧
      (prefixA2d.take (prefixA2d.length - 1)).isPrefixOf rest then
    { b with reportAnalog := if value = 0 then 0x00 else 0xFF }
  else if prefixPinmode.isPrefixOf msg then
    let outPin := atoi (msg.drop prefixPinmode.length)
    if IsDigitalPin outPin then
      if value = 0 then
        { b with
          pinDir := withoutBit b.pinDir outPin.toNat
          modes := Function.update b.modes outPin.toNat .INPUT
          pins := digitalWrite b.pins outPin.toNat .HIGH }
      else
        { b with
          pinDir := withBit b.pinDir outPin.toNat
          modes := Function.update b.modes outPin.toNat .OUTPUT
          pins := digitalWrite b.pins outPin.toNat .LOW }
    else b
  else if prefixReset.isPrefixOf msg then
    Board.setup { b with rx := { b.rx with oscRxNextOp := .WAITFORSTART } }
  else b

/-- What the board has sampled, and the channel that is next. -/
def Board.sampled (b : Board) : UInt16 × (ℕ → ℕ) × ℕ := (b.inputBuffer, b.a2dBuffer, b.k)

/-- A message leaves it alone. -/
lemma receive_frame (atoi : List UInt8 → ℤ) (b : Board) (msg : List UInt8) (value : UInt32) :
    (oscReceiveMessageInt atoi b msg value).sampled = b.sampled := by
  unfold oscReceiveMessageInt
  dsimp only
  split_ifs <;> rfl

/-! ## Directions -/

/-- A message that resets the board. -/
def Resets (msg : List UInt8) : Prop := prefixReset.isPrefixOf msg

/-- A message for another prefix does not reset the board. -/
lemma not_resets {p msg : List UInt8} (hp : p.isPrefixOf msg)
    (hne : ¬ p <+: prefixReset ∧ ¬ prefixReset <+: p) : ¬ Resets msg := by
  intro hreset
  rcases List.prefix_or_prefix_of_prefix (List.isPrefixOf_iff_prefix.mp hp)
    (List.isPrefixOf_iff_prefix.mp hreset) with h | h
  · exact hne.1 h
  · exact hne.2 h

/-- A pin number that passes the check is the number of a pin. -/
lemma toNat_mem_digitalPins {outPin : ℤ} (h : IsDigitalPin outPin) :
    outPin.toNat ∈ digitalPins := by
  obtain ⟨hfirst, hlast⟩ := h
  simp only [FIRST_DIGITAL_PIN, LAST_DIGITAL_PIN] at hfirst hlast
  rw [digitalPins, List.mem_range'_1, FIRST_DIGITAL_PIN, NUM_DIGITAL_PINS]
  omega

/-- What a message does to the directions. -/
inductive Directs (b : Board) (msg : List UInt8) (b' : Board) : Prop
  | reset (h : Resets msg) (hdir : b'.pinDir = b.pinDir)
      (hmodes : ∀ i ∈ digitalPins, b'.modes i = .INPUT)
  | keep (h : ¬ Resets msg) (hdir : b'.pinDir = b.pinDir) (hmodes : b'.modes = b.modes)
  | output (h : ¬ Resets msg) {j : ℕ} (hj : j ∈ digitalPins) (hdir : b'.pinDir = withBit b.pinDir j)
      (hmodes : b'.modes = Function.update b.modes j .OUTPUT)
  | input (h : ¬ Resets msg) {j : ℕ} (hj : j ∈ digitalPins)
      (hdir : b'.pinDir = withoutBit b.pinDir j)
      (hmodes : b'.modes = Function.update b.modes j .INPUT)

/-- `setup()` makes every pin an input. -/
lemma setup_modes (b : Board) {i : ℕ} (hi : i ∈ digitalPins) : b.setup.modes i = .INPUT := by
  have hfold (l : List ℕ) (modes : ℕ → PinMode) (h : i ∈ l ∨ modes i = .INPUT) :
      l.foldl (fun modes i => Function.update modes i .INPUT) modes i = .INPUT := by
    induction l generalizing modes with
    | nil => exact h.resolve_left List.not_mem_nil
    | cons j l ih =>
      apply ih
      by_cases hij : i = j
      · exact .inr (hij ▸ Function.update_self ..)
      · have hother : Function.update modes j .INPUT i = modes i := Function.update_of_ne hij ..
        exact h.imp (fun hmem => (List.mem_cons.mp hmem).resolve_left hij) hother.trans
  exact hfold _ _ (.inl hi)

/-- A message changes at most one direction, or resets the board. -/
lemma directs (atoi : List UInt8 → ℤ) (b : Board) (msg : List UInt8) (value : UInt32) :
    Directs b msg (oscReceiveMessageInt atoi b msg value) := by
  unfold oscReceiveMessageInt
  dsimp only
  split
  · next hout =>
    split <;> exact .keep (not_resets hout (by decide)) rfl rfl
  split
  · next hpwm =>
    split
    · next hpin =>
      exact .output (not_resets hpwm (by decide)) (toNat_mem_digitalPins hpin) rfl rfl
    · exact .keep (not_resets hpwm (by decide)) rfl rfl
  split
  · next hin => exact .keep (not_resets hin.1 (by decide)) rfl rfl
  split
  · next hadc =>
    split_ifs <;> exact .keep (not_resets hadc.1 (by decide)) rfl rfl
  split
  · next hall => exact .keep (not_resets hall.1 (by decide)) rfl rfl
  split
  · next hpinmode =>
    have hreset := not_resets hpinmode (by decide)
    split
    · next hpin =>
      have hmem := toNat_mem_digitalPins hpin
      split
      · exact .input hreset hmem rfl rfl
      · exact .output hreset hmem rfl rfl
    · exact .keep hreset rfl rfl
  split
  · next hreset => exact .reset hreset rfl fun i hi => setup_modes _ hi
  · next hreset => exact .keep hreset rfl rfl

/-- The bits are the directions of the pins. -/
def Board.KnowsDirections (b : Board) : Prop :=
  ∀ i ∈ digitalPins, bit b.pinDir i = true ↔ b.modes i = .OUTPUT

/-- The directions of all pins fit into 16 bits. -/
lemma lt_of_mem_digitalPins {i : ℕ} (h : i ∈ digitalPins) : i < 16 := by
  rw [digitalPins, List.mem_range'_1, FIRST_DIGITAL_PIN, NUM_DIGITAL_PINS] at h
  omega

section
variable {b b' : Board} {i j : ℕ}

/-- The bits agree with the modes when a pin is made an output. -/
lemma knows_output (hi : i ∈ digitalPins) (hj : j ∈ digitalPins)
    (hdir : b'.pinDir = withBit b.pinDir j) (hmodes : b'.modes = Function.update b.modes j .OUTPUT)
    (h : bit b.pinDir i = true ↔ b.modes i = .OUTPUT) :
    bit b'.pinDir i = true ↔ b'.modes i = .OUTPUT := by
  rw [hdir, hmodes, bit_withBit _ (lt_of_mem_digitalPins hi) (lt_of_mem_digitalPins hj)]
  by_cases hij : i = j
  · rw [hij, Function.update_self, decide_eq_true rfl, Bool.or_true]
    exact iff_of_true rfl rfl
  · rw [Function.update_of_ne hij, decide_eq_false hij, Bool.or_false, h]

/-- The bits agree with the modes when a pin is made an input. -/
lemma knows_input (hi : i ∈ digitalPins) (hj : j ∈ digitalPins)
    (hdir : b'.pinDir = withoutBit b.pinDir j)
    (hmodes : b'.modes = Function.update b.modes j .INPUT)
    (h : bit b.pinDir i = true ↔ b.modes i = .OUTPUT) :
    bit b'.pinDir i = true ↔ b'.modes i = .OUTPUT := by
  rw [hdir, hmodes, bit_withoutBit _ (lt_of_mem_digitalPins hi) (lt_of_mem_digitalPins hj)]
  by_cases hij : i = j
  · rw [hij, Function.update_self, decide_eq_false (not_not.mpr rfl), Bool.and_false]
    exact iff_of_false nofun nofun
  · rw [Function.update_of_ne hij, decide_eq_true hij, Bool.and_true, h]

end

/-- They stay so unless a reset comes while some pin is an output. -/
lemma Directs.knowsDirections_iff {b b' : Board} {msg : List UInt8} (h : Directs b msg b')
    (hb : b.KnowsDirections) :
    b'.KnowsDirections ↔ (Resets msg → ∀ i ∈ digitalPins, b.modes i = .INPUT) := by
  cases h with
  | reset h hdir hmodes =>
    constructor
    · intro hb' _ i hi
      have hclear : bit b.pinDir i ≠ true := by
        rw [← hdir, ne_eq, hb' i hi, hmodes i hi]
        exact nofun
      cases hmode : b.modes i with
      | INPUT => rfl
      | OUTPUT => exact absurd ((hb i hi).mpr hmode) hclear
    · intro hinput i hi
      rw [hdir, hb i hi, hinput h i hi, hmodes i hi]
  | keep h hdir hmodes =>
    refine iff_of_true (fun i hi => ?_) (absurd · h)
    rw [hdir, hmodes]
    exact hb i hi
  | output h hj hdir hmodes =>
    exact iff_of_true (fun i hi => knows_output hi hj hdir hmodes (hb i hi)) (absurd · h)
  | input h hj hdir hmodes =>
    exact iff_of_true (fun i hi => knows_input hi hj hdir hmodes (hb i hi)) (absurd · h)

/-- The board after some messages. -/
def received (atoi : List UInt8 → ℤ) (ms : List (List UInt8 × UInt32)) : Board :=
  ms.foldl (fun b m => oscReceiveMessageInt atoi b m.1 m.2) .start

/-- The bits are right behind every message iff no reset comes while some pin is an output. -/
theorem pinDir_iff (atoi : List UInt8 → ℤ) (ms : List (List UInt8 × UInt32)) :
    (∀ ms', ms' <+: ms → (received atoi ms').KnowsDirections) ↔
      ∀ ms' m, ms' ++ [m] <+: ms → Resets m.1 →
        ∀ i ∈ digitalPins, (received atoi ms').modes i = .INPUT := by
  have hstart : Board.start.KnowsDirections := by
    intro i hi
    have hmode : Board.start.modes i = .INPUT := setup_modes _ hi
    have hbit : bit Board.start.pinDir i = false := by
      rw [bit_eq _ (lt_of_mem_digitalPins hi)]
      exact BitVec.getLsbD_zero
    rw [hmode, hbit]
    exact iff_of_false nofun nofun
  exact foldl_invariant_iff (C := fun (b : Board) (m : List UInt8 × UInt32) =>
    Resets m.1 → ∀ i ∈ digitalPins, b.modes i = .INPUT) hstart
    (fun b m hb => (directs atoi b m.1 m.2).knowsDirections_iff hb) ms

-- an output that a reset has made an input
example : ∀ b, b = received (fun l => value l) [(text "/pinmode/9", 1), (text "/reset", 0)] →
    bit b.pinDir 9 = true ∧ b.modes 9 = .INPUT := by
  rintro b rfl
  decide +kernel

end ArduinoProjects.Osc
