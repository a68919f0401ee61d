import ArduinoProjects.FixedCount.Receive
import ArduinoProjects.Util.CString
import ArduinoProjects.Util.Overlay

/-!
# Master_test and Slave_test

The master writes seven bytes to the slave, asks it for seven bytes half a second later
and prints them. The slave stores what it receives, prints it, and answers with its first
seven bytes. Both print an array as a string, so what they print may go on behind it: the
bytes that stand there in memory are given to every step that prints.

`step` is the machine of the two boards and the bus between them. A write is on the bus
until it is delivered or lost, and the master's read comes after that.
-/

namespace ArduinoProjects.I2C

open Util FixedCount

/-- The result of call number `i` of `Wire.read()`, as a `char`: -1 behind the last byte. -/
def wireRead (rx : List UInt8) (i : ℕ) : UInt8 := rx.getD i 0xFF

/-! ## Slave_test -/

namespace SlaveTest

/-- `char dt[10]` and what has been printed to `Serial`. -/
structure State where
  dt : ℕ → UInt8
  serial : List UInt8

/-- The master after `setup()`. -/
def setup : State := ⟨fun _ => 0, []⟩

/-- The interrupt for a transmission of the bytes `rx`. -/
def State.receiveEvent (s : State) (rx behind : List UInt8) : State :=
  let dt := if rx ≠ [] then store (wireRead rx) s.dt 7 else s.dt
  { dt := dt
    serial := s.serial ++ cstring (cut dt 0 10 ++ behind) }

/-- The bytes that the interrupt for a request writes. -/
def State.requestEvent (s : State) : List UInt8 := cut s.dt 0 7

end SlaveTest

/-! ## Master_test -/

/-- A text for `i2csend(char sendtxt[7])`. -/
structure SendTxt where
  bytes : List UInt8
  length_eq : bytes.length = 7
  zero_notMem : 0 ∉ bytes

namespace MasterTest

/-- `char dt[7]` and what has been printed to `Serial`. -/
structure State where
  dt : ℕ → UInt8
  serial : List UInt8

/-- The slave after `setup()`. -/
def setup : State := ⟨fun _ => 0, []⟩

/-- `memcpy(dt, sendtxt, 7)` -/
def State.memcpy (s : State) (sendtxt : SendTxt) : State := { s with dt := fill s.dt sendtxt.bytes }

/-- `Wire.write(dt, 7)` -/
def State.write (s : State) : List UInt8 := cut s.dt 0 7

/-- The loop over `Wire.read()` and `Serial.println(dt)`. -/
def State.receive (s : State) (rx stack : List UInt8) : State :=
  let dt := store (wireRead rx) s.dt 7
  { dt := dt
    serial := s.serial ++ cstring (cut dt 0 7 ++ stack) ++ crlf }

end MasterTest

/-! ## Both on one bus -/

/-- Where the master is: outside `i2csend`, in a call whose write is on the bus, or in one
whose write is over and has been delivered or not. -/
inductive Place
  | outside
  | writing (sendtxt : SendTxt) (tx : List UInt8)
  | waiting (sendtxt : SendTxt) (delivered : Bool)

/-- Both boards and where the master is in its call. -/
structure System where
  master : MasterTest.State
  slave : SlaveTest.State
  place : Place

/-- Both boards after `setup()`; the master is in no call. -/
def setup : System := ⟨MasterTest.setup, SlaveTest.setup, .outside⟩

/-- `behind` and `stack` stand in memory behind the array that is printed. -/
inductive Action
  | i2csend (sendtxt : SendTxt)
  | deliver (behind : List UInt8)
  | lose
  | read (returned : Fin 8) (stack : List UInt8)

/-- One action. What is not possible in a place does not happen there. -/
def step (s : System) (a : Action) : System :=
  match s.place, a with
  | .outside, .i2csend sendtxt =>
    let master := s.master.memcpy sendtxt
    { s with master := master, place := .writing sendtxt master.write }
  | .writing sendtxt tx, .deliver behind =>
    { s with slave := s.slave.receiveEvent tx behind, place := .waiting sendtxt true }
  | .writing sendtxt _, .lose => { s with place := .waiting sendtxt false }
  | .waiting _ _, .read returned stack =>
    -- the slave answers with seven bytes, and the first `returned` of them arrive
    { s with
      master := s.master.receive (s.slave.requestEvent.take returned.val) stack
      place := .outside }
  | _, _ => s

/-- The text of the call whose write an action delivers. -/
def delivery (s : System) (a : Action) : Option SendTxt :=
  match s.place, a with
  | .writing sendtxt _, .deliver _ => some sendtxt
  | _, _ => none

/-! ## The arrays -/

/-- A loop that reads as many bytes as there are leaves them in the array. -/
lemma cut_store {rx : List UInt8} {n : ℕ} (h : rx.length = n) (dt : ℕ → UInt8) :
    cut (store (wireRead rx) dt n) 0 n = rx := by
  apply List.ext_getElem
  · rw [length_cut, h]
  · intro k hk hk'
    rw [getElem_cut, Nat.zero_add, store_apply, if_pos (h ▸ hk'), wireRead,
      List.getD_eq_getElem _ _ hk']

/-- The master writes the text it was called with. -/
lemma MasterTest.write_memcpy (s : MasterTest.State) (sendtxt : SendTxt) :
    (s.memcpy sendtxt).write = sendtxt.bytes := by
  have hlies : Lies (fill s.dt sendtxt.bytes) 0 sendtxt.bytes := lies_fill ..
  rwa [Lies, sendtxt.length_eq] at hlies

/-- A master that gets seven bytes prints them, and goes on behind them. -/
lemma MasterTest.receive_serial (s : MasterTest.State) {rx : List UInt8} (h : rx.length = 7)
    (stack : List UInt8) :
    (s.receive rx stack).serial = s.serial ++ cstring (rx ++ stack) ++ crlf := by
  show s.serial ++ cstring (cut (store (wireRead rx) s.dt 7) 0 7 ++ stack) ++ crlf = _
  rw [cut_store h]

/-- The slave stores the seven bytes of a write. -/
lemma SlaveTest.receiveEvent_dt (s : SlaveTest.State) {rx : List UInt8} (h : rx.length = 7)
    (behind : List UInt8) : (s.receiveEvent rx behind).dt = store (wireRead rx) s.dt 7 := by
  have hne : rx ≠ [] := List.ne_nil_of_length_eq_add_one h
  rw [SlaveTest.State.receiveEvent]
  simp only [if_pos hne]

/-- The slave answers with what it has received. -/
lemma SlaveTest.requestEvent_receiveEvent (s : SlaveTest.State) {rx : List UInt8}
    (h : rx.length = 7) (behind : List UInt8) :
    (s.receiveEvent rx behind).requestEvent = rx := by
  rw [SlaveTest.State.requestEvent, SlaveTest.receiveEvent_dt s h, cut_store h]

/-- A slave whose array has a NUL in cell 7 prints what it has received, and no more. -/
lemma SlaveTest.receiveEvent_serial (s : SlaveTest.State) (sendtxt : SendTxt)
    (hnul : s.dt 7 = 0) (behind : List UInt8) :
    (s.receiveEvent sendtxt.bytes behind).serial = s.serial ++ sendtxt.bytes := by
  have hdt := SlaveTest.receiveEvent_dt s sendtxt.length_eq behind
  have htext := SlaveTest.requestEvent_receiveEvent s sendtxt.length_eq behind
  have hhead : (cut (s.receiveEvent sendtxt.bytes behind).dt 7 3 ++ behind).headD 0 = 0 := by
    show (s.receiveEvent sendtxt.bytes behind).dt 7 = 0
    rw [hdt, store_apply, if_neg (lt_irrefl 7), hnul]
  have hcut : cut (s.receiveEvent sendtxt.bytes behind).dt 0 10 ++ behind =
      sendtxt.bytes ++ (cut (s.receiveEvent sendtxt.bytes behind).dt 7 3 ++ behind) := by
    rw [← List.append_assoc, ← htext]
    exact congrArg (· ++ behind) (cut_append _ 0 7 3)
  show s.serial ++ cstring (cut (s.receiveEvent sendtxt.bytes behind).dt 0 10 ++ behind) = _
  rw [hcut, (cstring_append_eq_iff sendtxt.zero_notMem _).mpr hhead]

end ArduinoProjects.I2C
