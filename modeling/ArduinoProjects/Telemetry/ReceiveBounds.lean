import ArduinoProjects.Satsumaimo2.SketchJul05d
import ArduinoProjects.Satsumaimo3.Receive

/-!
# The bounds of the receive loops

The logger and the relay store into `Moji` as long as a byte is waiting, and neither looks
at the size of the array. In both the loop index is the number of bytes found since the
port was last empty (`Util.index`), a number that the arrivals and the tests decide alone;
`receive_bounds_iff` says which of them keep it inside both arrays.
-/

namespace ArduinoProjects

open Util

/-! ## The relay on any line -/

namespace Satsumaimo2.SketchJul05d

variable (A : Arduino)

/-- A byte arrives at the relay's port, or the relay tests it. -/
def serve (s : State) : Util.Event UInt8 SpiReply → State
  | .arrive b => { s with rx := offer 63 s.rx b }
  | .poll spi => poll A s spi

/-- The relay before step `n`. -/
def relay (ev : ℕ → Util.Event UInt8 SpiReply) (n : ℕ) : State := run (serve A) setup ev n

variable (ev : ℕ → Util.Event UInt8 SpiReply)

/-- The relay is a receiver with a port of 63 bytes. -/
lemma relay_receives : Receives 63 (serve A) State.rx State.i where
  arrive_rx _ _ := rfl
  arrive_i _ _ := rfl
  poll_rx s spi := by
    show (poll A s spi).rx = s.rx.tail
    cases hrx : s.rx with
    | nil =>
      obtain ⟨v, -, hnil, -⟩ := poll_of_nil A hrx spi
      rw [hnil, List.tail_nil]
    | cons b waiting =>
      rw [poll_of_cons A hrx]
      rfl
  empty_i s spi hrx := by
    obtain ⟨v, -, -, hzero⟩ := poll_of_nil A hrx spi
    exact hzero
  found_i s spi hrx := by
    obtain ⟨b, waiting, hcons⟩ := List.exists_cons_of_ne_nil hrx
    show (poll A s spi).i = s.i + 1
    rw [poll_of_cons A hcons]
    rfl

lemma relay_rx (n : ℕ) : (relay A ev n).rx = waiting 63 ev n :=
  (relay_receives A).rx_run rfl ev n

/-- The loop index counts the bytes since the last test that found none. -/
lemma relay_i (n : ℕ) : (relay A ev n).i = index 63 ev n :=
  (relay_receives A).i_run rfl rfl ev n

/-- Every store into `Moji` and every echo from it stays inside `char Moji[20]`. -/
def StaysInside : Prop :=
  ∀ n, (ev n).IsPoll → (relay A ev n).rx ≠ [] → (relay A ev n).i < 20

end Satsumaimo2.SketchJul05d

namespace Satsumaimo3

/-- Every store into `Moji` and every echo from it stays inside `char Moji[40]`. -/
def StaysInside (ev : ℕ → Event UInt8 Unit) : Prop :=
  ∀ n, (ev n).IsPoll → (line ev n).rx ≠ [] → (line ev n).i < 40

end Satsumaimo3

namespace Telemetry

/-- No more than `c` tests of the port in a row find a byte. -/
def AtMost {ι : Type*} (c : ℕ) (ev : ℕ → Event UInt8 ι) : Prop :=
  ∀ m n, m ≤ n → Busy 63 ev m n → polls ev n ≤ polls ev m + c

/-- Each receive loop stays inside its buffer iff no pass finds more bytes than that holds. -/
theorem receive_bounds_iff (A : Arduino) (ev : ℕ → Event UInt8 Unit)
    (ev' : ℕ → Event UInt8 SpiReply) :
    (Satsumaimo3.StaysInside ev ↔ AtMost 40 ev) ∧
      (Satsumaimo2.SketchJul05d.StaysInside A ev' ↔ AtMost 20 ev') := by
  constructor
  · rw [AtMost, ← index_lt_iff, Satsumaimo3.StaysInside]
    simp only [Satsumaimo3.line_rx, Satsumaimo3.line_i]
  · rw [AtMost, ← index_lt_iff, Satsumaimo2.SketchJul05d.StaysInside]
    simp only [Satsumaimo2.SketchJul05d.relay_rx, Satsumaimo2.SketchJul05d.relay_i]

/-- The logger finds a full port, the relay one frame of thirty bytes. -/
theorem receive_loops_overrun :
    ¬ (∀ ev : ℕ → Event UInt8 Unit, Satsumaimo3.StaysInside ev) ∧
      ¬ ∀ (A : Arduino) (ev : ℕ → Event UInt8 SpiReply),
        Satsumaimo2.SketchJul05d.StaysInside A ev := by
  refine ⟨fun h => ?_, fun h => ?_⟩
  · -- the forty-first byte is found by test number 40 behind 63 arrivals
    have hi := h (fun n => if n < 63 then .arrive 0x30 else .poll ()) 103
    rw [Satsumaimo3.line_rx, Satsumaimo3.line_i] at hi
    have hlt := hi (by decide) (by decide +kernel)
    revert hlt
    decide +kernel
  · have hi := h (.halfUp fun _ => 20)
      (fun n => if n < 30 then .arrive 0x30 else .poll ⟨0, 0, 0, 0⟩) 50
    rw [Satsumaimo2.SketchJul05d.relay_rx, Satsumaimo2.SketchJul05d.relay_i] at hi
    have hlt := hi (by decide) (by decide +kernel)
    revert hlt
    decide +kernel

end Telemetry
end ArduinoProjects
