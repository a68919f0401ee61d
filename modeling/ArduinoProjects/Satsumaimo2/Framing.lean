import ArduinoProjects.Satsumaimo2.SketchJul05d
import Mathlib.Data.List.Flatten

/-!
# Framing by the relay

What the relay has written at the end of a pass should be whole units: a frame of thirty
bytes and one temperature. The invariant `Aligned` says that the output is whole units and
the part of a frame that the current pass has echoed. A pass keeps it iff it echoes exactly
one frame (`framing_iff`): nothing in the sketch waits for the end of a frame.
-/

namespace ArduinoProjects.Satsumaimo2.SketchJul05d

open Util

variable (A : Arduino) (frames : ℕ → Vector UInt8 30) (ev : ℕ → Event)

/-- One whole unit: the bytes of a frame and the text of a temperature. -/
def unit (frame : Vector UInt8 30) (Hanoura : ℚ) : List Write :=
  frame.toList.map .byte ++ [.text (A.dtostrf Hanoura 2 1)]

/-- The units of the first frames, one for each temperature. -/
def units (temperatures : List ℚ) : List Write :=
  temperatures.zipIdx.flatMap fun p => unit A (frames p.2) p.1

/-- The line before step `n`. -/
def before (n : ℕ) : Line := run (step A frames) ⟨setup, 0⟩ ev n

/-- The pass under way at step `n` ends there. -/
def PassEnds (n : ℕ) : Prop := (∃ spi, ev n = .poll spi) ∧ (before A frames ev n).relay.rx = []

/-- What has been written before step `n` is whole units. -/
def WholeUnits (n : ℕ) : Prop :=
  ∃ temperatures, (before A frames ev n).relay.out = units A frames temperatures

/-! ## Counting writes -/

lemma units_append (temperatures : List ℚ) (v : ℚ) :
    units A frames (temperatures ++ [v]) =
      units A frames temperatures ++ unit A (frames temperatures.length) v := by
  rw [units, units, List.zipIdx_append, List.flatMap_append]
  simp

lemma length_unit (frame : Vector UInt8 30) (v : ℚ) : (unit A frame v).length = 31 := by
  simp [unit]

lemma length_units (temperatures : List ℚ) :
    (units A frames temperatures).length = 31 * temperatures.length := by
  induction temperatures using List.reverseRecOn with
  | nil => rfl
  | append_singleton l v ih =>
    rw [units_append, List.length_append, ih, length_unit, List.length_append,
      List.length_singleton]
    omega

/-- Whether a call wrote a temperature. -/
def Write.isText : Write → Bool
  | .byte _ => false
  | .text _ => true

/-- A frame has no text. -/
lemma countP_bytes (l : List UInt8) : (l.map Write.byte).countP Write.isText = 0 := by
  rw [List.countP_eq_zero]
  intro w hw
  obtain ⟨b, -, rfl⟩ := List.mem_map.mp hw
  simp [Write.isText]

/-- One text for each temperature. -/
lemma countP_units (temperatures : List ℚ) :
    (units A frames temperatures).countP Write.isText = temperatures.length := by
  induction temperatures using List.reverseRecOn with
  | nil => rfl
  | append_singleton l v ih =>
    rw [units_append, List.countP_append, ih, unit, List.countP_append, countP_bytes,
      List.length_append, List.length_singleton]
    rfl

/-- Writes that make whole units were made in passes of thirty bytes. -/
lemma thirty_of_units {hs hs' : List ℚ} {l : List UInt8} {s : List UInt8}
    (h : units A frames hs ++ l.map .byte ++ [.text s] = units A frames hs') : l.length = 30 := by
  have hlen := congrArg List.length h
  have hcount := congrArg (List.countP Write.isText) h
  rw [List.length_append, List.length_append, length_units, length_units, List.length_map,
    List.length_singleton] at hlen
  rw [List.countP_append, List.countP_append, countP_units, countP_units, countP_bytes] at hcount
  have hone : [Write.text s].countP Write.isText = 1 := rfl
  omega

/-! ## The invariant -/

/-- The output is whole units and the `i` bytes of the next frame that the current pass has
echoed; the following `w` bytes are waiting. -/
structure Aligned (s : Line) (hs : List ℚ) (w : ℕ) : Prop where
  arrived : s.arrived = 30 * hs.length + s.relay.i + w
  rx : s.relay.rx = segment frames (30 * hs.length + s.relay.i) w
  out : s.relay.out = units A frames hs ++ (segment frames (30 * hs.length) s.relay.i).map .byte

variable {A frames}

/-- A byte that arrives keeps the relay aligned. -/
lemma Aligned.arrive {s : Line} {hs : List ℚ} {w : ℕ} (h : Aligned A frames s hs w) :
    Aligned A frames (step A frames s .arrive) hs (w + 1) where
  arrived := by
    show s.arrived + 1 = _
    rw [h.arrived]
    rfl
  rx := by
    show s.relay.rx ++ _ = segment frames (30 * hs.length + s.relay.i) (w + 1)
    rw [segment_concat, h.rx, h.arrived]
  out := h.out

/-- So does a byte that it passes on. -/
lemma Aligned.receive {s : Line} {hs : List ℚ} {w : ℕ} (h : Aligned A frames s hs (w + 1))
    (spi : SpiReply) : Aligned A frames (step A frames s (.poll spi)) hs w := by
  have hrx := h.rx
  rw [segment_succ] at hrx
  have hi : (s.relay.receive (concat frames (30 * hs.length + s.relay.i))
      (segment frames (30 * hs.length + s.relay.i + 1) w)).i = s.relay.i + 1 := rfl
  rw [step, poll_of_cons A hrx]
  refine ⟨?_, ?_, ?_⟩
  · show s.arrived = _
    rw [h.arrived, hi]
    omega
  · rw [hi]
    rfl
  · rw [receive_out, h.out, hi, segment_concat, List.map_append, List.append_assoc]
    rfl

/-- A pass that ends after thirty bytes has written one more unit. -/
lemma Aligned.finish {s : Line} {hs : List ℚ} (h : Aligned A frames s hs 0)
    (hi : s.relay.i = 30) (spi : SpiReply) :
    ∃ v, Aligned A frames (step A frames s (.poll spi)) (hs ++ [v]) 0 ∧
      (step A frames s (.poll spi)).relay.i = 0 := by
  obtain ⟨v, hout, hrx, hzero⟩ := poll_of_nil A (h.rx.trans (segment_zero _ _)) spi
  refine ⟨v, ⟨?_, ?_, ?_⟩, hzero⟩
  · show s.arrived = _
    rw [h.arrived, hi, List.length_append, List.length_singleton]
    show _ = _ + (poll A s.relay spi).i + 0
    rw [hzero]
    omega
  · rw [segment_zero]
    exact hrx
  · show (poll A s.relay spi).out = units A frames (hs ++ [v]) ++
      (segment frames _ (poll A s.relay spi).i).map Write.byte
    rw [hzero, segment_zero, hout, h.out, hi, segment_block, units_append, List.map_nil,
      List.append_nil, unit, List.append_assoc]

variable (A frames)

/-- The invariant holds as long as the passes that have ended echoed one frame each, and
with it what else survives the three kinds of steps, given the number of frames so far. -/
lemma aligned_induction {P : State → ℕ → Prop} (hsetup : P setup 0)
    (harrive : ∀ s k, P s.relay k → P (step A frames s .arrive).relay k)
    (hreceive : ∀ s hs w spi, Aligned A frames s hs (w + 1) → P s.relay hs.length →
      P (step A frames s (.poll spi)).relay hs.length)
    (hfinish : ∀ s hs spi, Aligned A frames s hs 0 → s.relay.i = 30 → P s.relay hs.length →
      P (step A frames s (.poll spi)).relay (hs.length + 1)) {n : ℕ}
    (h : ∀ m < n, PassEnds A frames ev m → (before A frames ev m).relay.i = 30) :
    ∃ hs w, Aligned A frames (before A frames ev n) hs w ∧
      P (before A frames ev n).relay hs.length := by
  -- the temperatures sent so far and the bytes waiting are the witnesses
  induction n with
  | zero => exact ⟨[], 0, ⟨rfl, rfl, rfl⟩, hsetup⟩
  | succ n ih =>
    obtain ⟨hs, w, hal, hP⟩ := ih fun m hm => h m (by omega)
    rw [before, run_succ, ← before]
    cases hev : ev n with
    | arrive => exact ⟨hs, w + 1, hal.arrive, harrive _ _ hP⟩
    | poll spi =>
      cases w with
      | zero =>
        have hi := h n (Nat.lt_succ_self n) ⟨⟨spi, hev⟩, hal.rx.trans (segment_zero _ _)⟩
        obtain ⟨v, hnext, -⟩ := hal.finish hi spi
        refine ⟨hs ++ [v], 0, hnext, ?_⟩
        rw [List.length_append, List.length_singleton]
        exact hfinish _ hs spi hal hi hP
      | succ w => exact ⟨hs, w, hal.receive spi, hreceive _ hs w spi hal hP⟩

/-- The relay is aligned as long as every pass ended with a whole frame. -/
lemma exists_aligned {n : ℕ}
    (h : ∀ m < n, PassEnds A frames ev m → (before A frames ev m).relay.i = 30) :
    ∃ hs w, Aligned A frames (before A frames ev n) hs w := by
  obtain ⟨hs, w, hal, -⟩ := aligned_induction A frames ev (P := fun _ _ => True) trivial
    (fun _ _ _ => trivial) (fun _ _ _ _ _ _ => trivial) (fun _ _ _ _ _ _ => trivial) h
  exact ⟨hs, w, hal⟩

/-- The relay writes whole units iff every pass that ends has echoed thirty bytes. -/
theorem framing_iff :
    (∀ n, PassEnds A frames ev n → WholeUnits A frames ev (n + 1)) ↔
      ∀ n, PassEnds A frames ev n → (before A frames ev n).relay.i = 30 := by
  constructor
  · intro h n
    induction n using Nat.strong_induction_on with
    | _ n ih =>
      intro hends
      -- the passes before this one echoed a frame each, so this one began with a frame
      obtain ⟨hs, w, hal⟩ := exists_aligned A frames ev ih
      obtain ⟨⟨spi, hev⟩, hrx⟩ := hends
      obtain ⟨v, hout, -⟩ := poll_of_nil A hrx spi
      obtain ⟨hs', hunits⟩ := h n ⟨⟨spi, hev⟩, hrx⟩
      have hstep : (before A frames ev (n + 1)).relay.out =
          (poll A (before A frames ev n).relay spi).out := by
        show (step A frames (before A frames ev n) (ev n)).relay.out = _
        rw [hev]
        rfl
      rw [hstep, hout, hal.out] at hunits
      rw [← length_segment frames (30 * hs.length) (before A frames ev n).relay.i]
      exact thirty_of_units A frames hunits
  · intro h n hends
    obtain ⟨hs, w, hal⟩ := exists_aligned A frames ev fun m _ => h m
    obtain ⟨⟨spi, hev⟩, hrx⟩ := hends
    have hw : w = 0 := (segment_eq_nil_iff frames _ w).mp (hal.rx.symm.trans hrx)
    subst hw
    obtain ⟨v, hnext, hzero⟩ := hal.finish (h n ⟨⟨spi, hev⟩, hrx⟩) spi
    refine ⟨hs ++ [v], ?_⟩
    show (step A frames (before A frames ev n) (ev n)).relay.out = _
    rw [hev, hnext.out, hzero, segment_zero, List.map_nil, List.append_nil]

/-- A pass that finds the port empty writes a temperature behind no frame. -/
theorem temperature_without_frame :
    ¬ ∀ (A : Arduino) (frames : ℕ → Vector UInt8 30) (ev : ℕ → Event) (n : ℕ),
      PassEnds A frames ev n → WholeUnits A frames ev (n + 1) := by
  intro h
  obtain ⟨hs, hunits⟩ := h (.halfUp fun _ => 20) (fun _ => Vector.replicate 30 48)
    (fun _ => .poll ⟨0, 0, 0, 0⟩) 0 ⟨⟨_, rfl⟩, rfl⟩
  have hlen := congrArg List.length hunits
  rw [length_units] at hlen
  have hone : (before (.halfUp fun _ => 20) (fun _ => Vector.replicate 30 48)
      (fun _ => .poll ⟨0, 0, 0, 0⟩) (0 + 1)).relay.out.length = 1 := rfl
  omega

end ArduinoProjects.Satsumaimo2.SketchJul05d
