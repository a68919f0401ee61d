import ArduinoProjects.Satsumaimo3.Sketch
import ArduinoProjects.Util.Port

/-!
# The logger, one byte at a time

`loop` takes the bytes a poll finds waiting as given. Here they arrive at any time, also
while the receive loop runs, and every test of `Serial.available()` is a step of its own.
A run of this machine is a sequence of polls and the beginning of one more
(`exists_passes`); a poll that received no more than the buffer holds is a `loop`.
-/

namespace ArduinoProjects.Satsumaimo3

open Util

/-! ## A poll of any size -/

/-- What follows the receive loop. -/
def State.finish (s : State) : State :=
  { s with datalog := if gate s.Moji then s.datalog ++ [(slots s.Moji).row] else s.datalog }

/-- The receive loop after the bytes of `l`. -/
def State.received (s : State) (l : List UInt8) : State :=
  let r := receive 0 s.Moji l
  { s with Moji := r.1, serial := s.serial ++ r.2 }

/-- A poll that finds the bytes of `l`, however many they are. -/
def pass (s : State) (l : List UInt8) : State := (s.received l).finish

/-- A poll that finds at most 40 bytes is a `loop`. -/
lemma loop_eq_pass (s : State) (c : Chunk) : loop s c = pass s c.val := rfl

lemma received_nil (s : State) : s.received [] = s := by
  rw [State.received, receive, List.append_nil]

/-- A poll overwrites the beginning of the buffer. -/
@[simp] lemma received_Moji (s : State) (l : List UInt8) :
    (s.received l).Moji = fill s.Moji l := by
  rw [State.received, receive_eq]
  rfl

/-- One more iteration stores the next byte behind the others. -/
lemma received_concat (s : State) (l : List UInt8) (b : UInt8) :
    s.received (l ++ [b]) =
      { s.received l with
        Moji := Function.update (s.received l).Moji l.length b
        serial := (s.received l).serial ++ [b] } := by
  have hMoji := fill_concat s.Moji l b
  simp only [State.received, receive_eq, ← List.append_assoc]
  congr 1

/-! ## Runs of polls -/

section Runs

variable (c : ℕ → List UInt8)

/-- The state before poll `n`, when poll `m` finds the bytes of `c m`. -/
def state (n : ℕ) : State := run pass setup c n

/-- Poll `m` logs a row. -/
def LogsRow (m : ℕ) : Prop := gate (state c (m + 1)).Moji

instance : DecidablePred (LogsRow c) := fun _ => inferInstanceAs (Decidable (gate _))

/-- The polls before poll `n` that log a row. -/
def logged (n : ℕ) : List ℕ := (List.range n).filter (LogsRow c ·)

/-- The buffer after a poll. -/
lemma state_Moji_succ (n : ℕ) : (state c (n + 1)).Moji = fill (state c n).Moji (c n) := by
  rw [state, run_succ, ← state]
  exact received_Moji _ _

/-- Every poll fills the buffer from its beginning. -/
lemma state_Moji (n : ℕ) : (state c n).Moji = run fill (fun _ => 0) c n := by
  induction n with
  | zero => rfl
  | succ n ih => rw [state_Moji_succ, ih, run_succ]

/-- The file is the header and a row of each poll that passed the gate. -/
lemma state_datalog (n : ℕ) :
    (state c n).datalog = header :: (logged c n).map fun m => printed (state c (m + 1)).Moji := by
  have hstep (n : ℕ) : (state c (n + 1)).datalog =
      if LogsRow c n then (state c n).datalog ++ [printed (state c (n + 1)).Moji]
      else (state c n).datalog := by
    rw [← row_slots]
    rfl
  exact log_eq (fun n => (state c n).datalog) (LogsRow c) hstep n

end Runs

/-! ## Small steps -/

/-- The logger, the index of its receive loop, and the bytes waiting at the port. -/
structure Line where
  logger : State
  i : ℕ
  rx : List UInt8

/-- One iteration of `while (Serial.available())`. -/
def Line.receive (s : Line) (b : UInt8) (waiting : List UInt8) : Line :=
  let Moji := Function.update s.logger.Moji s.i b
  { logger := { s.logger with Moji := Moji, serial := s.logger.serial ++ [Moji s.i] }
    i := s.i + 1
    rx := waiting }

/-- One test of `Serial.available()` and what it leads to. -/
def Line.poll (s : Line) : Line :=
  match s.rx with
  | b :: waiting => s.receive b waiting
  -- the loop is left, and after the delays the next pass begins
  | [] => { s with logger := s.logger.finish, i := 0 }

/-- A byte arrives, or the logger tests the port. -/
def Line.step (s : Line) : Event UInt8 Unit → Line
  | .arrive b => { s with rx := offer 63 s.rx b }
  | .poll _ => s.poll

variable (ev : ℕ → Event UInt8 Unit)

/-- The logger and its port before step `n`. -/
def line (n : ℕ) : Line := run Line.step ⟨setup, 0, []⟩ ev n

lemma poll_of_cons {s : Line} {b : UInt8} {waiting : List UInt8} (h : s.rx = b :: waiting) :
    s.poll = s.receive b waiting := by
  rw [Line.poll]
  simp only [h]

lemma poll_of_nil {s : Line} (h : s.rx = []) :
    s.poll = { s with logger := s.logger.finish, i := 0 } := by
  rw [Line.poll]
  simp only [h]

/-- The logger is a receiver with a port of 63 bytes. -/
lemma line_receives : Receives 63 Line.step Line.rx Line.i where
  arrive_rx _ _ := rfl
  arrive_i _ _ := rfl
  poll_rx s _ := by
    show s.poll.rx = s.rx.tail
    cases hrx : s.rx with
    | nil =>
      rw [poll_of_nil hrx]
      exact hrx
    | cons b waiting =>
      rw [poll_of_cons hrx]
      rfl
  empty_i s _ hrx := by
    show s.poll.i = 0
    rw [poll_of_nil hrx]
  found_i s _ hrx := by
    obtain ⟨b, waiting, hcons⟩ := List.exists_cons_of_ne_nil hrx
    show s.poll.i = s.i + 1
    rw [poll_of_cons hcons]
    rfl

lemma line_rx (n : ℕ) : (line ev n).rx = waiting 63 ev n := line_receives.rx_run rfl ev n

/-- The loop index counts the bytes since the last test that found none. -/
lemma line_i (n : ℕ) : (line ev n).i = index 63 ev n := line_receives.i_run rfl rfl ev n

/-- The state of a line after polls of the given bytes and a part of one more, all of them
bytes that satisfy `P`. -/
structure Follows (P : UInt8 → Prop) (s : Line) (chunks : List (List UInt8))
    (l : List UInt8) : Prop where
  logger : s.logger = (chunks.foldl pass setup).received l
  i : s.i = l.length
  chunks_forall : ∀ c ∈ chunks, ∀ b ∈ c, P b
  forall_mem : ∀ b ∈ l, P b

section Follows

variable {P : UInt8 → Prop} {s : Line} {chunks : List (List UInt8)} {l : List UInt8}

/-- A test that finds nothing completes the poll. -/
lemma Follows.poll_nil (h : Follows P s chunks l) (hrx : s.rx = []) :
    Follows P s.poll (chunks ++ [l]) [] where
  logger := by
    rw [poll_of_nil hrx, received_nil, List.foldl_append, h.logger]
    rfl
  i := by
    rw [poll_of_nil hrx]
    rfl
  chunks_forall := by
    intro c hc
    rcases List.mem_append.mp hc with hold | hnew
    · exact h.chunks_forall c hold
    · rw [List.mem_singleton.mp hnew]
      exact h.forall_mem
  forall_mem := fun _ hb => absurd hb List.not_mem_nil

/-- A test that finds a byte goes on with it. -/
lemma Follows.poll_cons (h : Follows P s chunks l) {b : UInt8} {waiting : List UInt8}
    (hrx : s.rx = b :: waiting) (hb : P b) : Follows P s.poll chunks (l ++ [b]) where
  logger := by
    rw [poll_of_cons hrx, received_concat, ← h.logger, ← h.i, Line.receive, Function.update_self]
  i := by
    rw [poll_of_cons hrx, List.length_append, ← h.i]
    rfl
  chunks_forall := h.chunks_forall
  forall_mem := by
    intro b' hb'
    rcases List.mem_append.mp hb' with hold | hnew
    · exact h.forall_mem b' hold
    · rwa [List.mem_singleton.mp hnew]

end Follows

/-- At any time a run is a sequence of polls and the beginning of one more, and what holds
of every byte that arrives holds of every byte that they receive. -/
theorem exists_passes {P : UInt8 → Prop} (h : ∀ n b, ev n = .arrive b → P b) (n : ℕ) :
    ∃ chunks l, Follows P (line ev n) chunks l := by
  induction n with
  | zero =>
    exact ⟨[], [], (received_nil setup).symm, rfl, fun _ hc => absurd hc List.not_mem_nil,
      fun _ hb => absurd hb List.not_mem_nil⟩
  | succ n ih =>
    obtain ⟨chunks, l, hfollows⟩ := ih
    have hwaiting := waiting_forall 63 ev h n
    rw [← line_rx] at hwaiting
    rw [line, run_succ, ← line]
    cases ev n with
    | arrive b => exact ⟨chunks, l, hfollows.logger, hfollows.i, hfollows.chunks_forall,
        hfollows.forall_mem⟩
    | poll _ =>
      cases hrx : (line ev n).rx with
      | nil => exact ⟨chunks ++ [l], [], hfollows.poll_nil hrx⟩
      | cons b waiting =>
        have hb : P b := hwaiting b (hrx ▸ List.mem_cons_self ..)
        exact ⟨chunks, l ++ [b], hfollows.poll_cons hrx hb⟩

end ArduinoProjects.Satsumaimo3
