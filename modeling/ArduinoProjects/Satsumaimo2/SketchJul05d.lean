import ArduinoProjects.Thermocouple
import ArduinoProjects.Util.History
import ArduinoProjects.Util.Stream

/-!
# Satsumaimo2, `sketch_jul05d`: the relay

The relay echoes what it receives and appends the temperature in the shade. Its receive
loop runs while a byte is waiting, and bytes arrive at any time, so the model is a machine
of small steps: a byte arrives, or the sketch tests `Serial.available()` once. A test that
finds a byte runs one iteration of the loop; one that finds none runs the rest of the pass
and begins the next one. `Moji` is a total function, so that storing past its end is
defined.
-/

namespace ArduinoProjects.Satsumaimo2.SketchJul05d

open Util

/-- One call of `Serial.write`. -/
inductive Write
  | byte (b : UInt8)
  | text (s : List UInt8)

/-- The globals, the two locals that live through the receive loop, the bytes waiting at
the port and the calls of `Serial.write` so far. -/
structure State where
  Hanoura : ℚ
  Moji : ℕ → UInt8
  i : ℕ
  byou : ℤ
  rx : List UInt8
  out : List Write

/-- `int i = 0; int byou = Moji[13];` -/
def State.begin (s : State) : State := { s with i := 0, byou := char (s.Moji 13) }

/-- The first pass is about to enter its receive loop. -/
def setup : State :=
  State.begin { Hanoura := 0, Moji := fun _ => 0, i := 0, byou := 0, rx := [], out := [] }

/-- One iteration of `while (Serial.available())`. -/
def State.receive (s : State) (b : UInt8) (waiting : List UInt8) : State :=
  let Moji := Function.update s.Moji s.i b
  { s with
    Moji := Moji
    rx := waiting
    out := s.out ++ [.byte (Moji s.i)]
    i := s.i + 1 }

/-- The branch `if (byou % 2 == 1)`. -/
def State.sample (s : State) (spi : SpiReply) : State :=
  if s.byou.tmod 2 = 1 then { s with Hanoura := Thermocouple.sample s.Hanoura spi } else s

/-- `dtostrf(Hanoura, 2, 1, hikage); Serial.write(hikage);` -/
def State.append (A : Arduino) (s : State) : State :=
  { s with out := s.out ++ [.text (A.dtostrf s.Hanoura 2 1)] }

/-- One test of `Serial.available()` and what it leads to. The sensor would answer `spi`. -/
def poll (A : Arduino) (s : State) (spi : SpiReply) : State :=
  match s.rx with
  | b :: waiting => s.receive b waiting
  -- the loop is left, and after `delay(1000)` the next pass begins
  | [] => ((s.sample spi).append A).begin

/-! ## The relay on a line -/

/-- A byte arrives, or `loop()` takes a step. -/
inductive Event
  | arrive
  | poll (spi : SpiReply)

/-- The relay and how many bytes of the stream have arrived. -/
structure Line where
  relay : State
  arrived : ℕ

/-- One step on a line that delivers the bytes of `frames` in order. -/
def step (A : Arduino) (frames : ℕ → Vector UInt8 30) (s : Line) : Event → Line
  | .arrive =>
    { relay := { s.relay with rx := s.relay.rx ++ [concat frames s.arrived] }
      arrived := s.arrived + 1 }
  | .poll spi => { s with relay := poll A s.relay spi }

@[simp] lemma receive_out (s : State) (b : UInt8) (waiting : List UInt8) :
    (s.receive b waiting).out = s.out ++ [.byte b] := by
  rw [State.receive, Function.update_self]

@[simp] lemma sample_out (s : State) (spi : SpiReply) : (s.sample spi).out = s.out := by
  unfold State.sample
  split <;> rfl

@[simp] lemma sample_rx (s : State) (spi : SpiReply) : (s.sample spi).rx = s.rx := by
  unfold State.sample
  split <;> rfl

lemma poll_of_cons (A : Arduino) {s : State} {b : UInt8} {waiting : List UInt8}
    (h : s.rx = b :: waiting) (spi : SpiReply) : poll A s spi = s.receive b waiting := by
  rw [poll]
  simp only [h]

lemma poll_of_nil_eq (A : Arduino) {s : State} (h : s.rx = []) (spi : SpiReply) :
    poll A s spi = ((s.sample spi).append A).begin := by
  rw [poll]
  simp only [h]

/-- A test that finds nothing writes the temperature and starts over at index 0. -/
lemma poll_of_nil (A : Arduino) {s : State} (h : s.rx = []) (spi : SpiReply) :
    ∃ v, (poll A s spi).out = s.out ++ [.text (A.dtostrf v 2 1)] ∧
      (poll A s spi).rx = [] ∧ (poll A s spi).i = 0 := by
  have hpoll := poll_of_nil_eq A h spi
  refine ⟨(s.sample spi).Hanoura, ?_, ?_, ?_⟩
  · rw [hpoll, ← sample_out s spi]
    rfl
  · rw [hpoll, ← h, ← sample_rx s spi]
    rfl
  · rw [hpoll]
    rfl

end ArduinoProjects.Satsumaimo2.SketchJul05d
