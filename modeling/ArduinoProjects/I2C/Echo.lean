import ArduinoProjects.I2C.Sketch

/-!
# The echo

Behind the text of the latest write that was delivered the buffer of the slave holds the NULs
it was born with, so it prints what it receives. The array of the master has no room for a NUL:
`echo_iff` says that its calls print their texts iff a NUL happens to stand behind the array
whenever it is printed.
-/

namespace ArduinoProjects.I2C

open Util FixedCount

/-! ## One step -/

lemma delivery_eq_some_iff {s : System} {a : Action} {sendtxt : SendTxt} :
    delivery s a = some sendtxt ↔
      ∃ tx behind, s.place = .writing sendtxt tx ∧ a = .deliver behind := by
  unfold delivery
  constructor
  · intro h
    split at h
    · next tx behind hplace =>
      obtain rfl := Option.some.inj h
      exact ⟨tx, behind, hplace, rfl⟩
    · exact absurd h (Option.some_ne_none _).symm
  · rintro ⟨tx, behind, hplace, rfl⟩
    simp only [hplace]

/-- The slave receives the text that is in transmission. -/
lemma step_deliver {s : System} {sendtxt : SendTxt} {tx : List UInt8}
    (h : s.place = .writing sendtxt tx) (behind : List UInt8) :
    step s (.deliver behind) =
      { s with slave := s.slave.receiveEvent tx behind, place := .waiting sendtxt true } := by
  unfold step
  simp only [h]

/-- The master gets the bytes that the slave returns. -/
lemma step_read {s : System} {sendtxt : SendTxt} {delivered : Bool}
    (h : s.place = .waiting sendtxt delivered) (returned : Fin 8) (stack : List UInt8) :
    step s (.read returned stack) =
      { s with
        master := s.master.receive (s.slave.requestEvent.take returned.val) stack
        place := .outside } := by
  unfold step
  simp only [h]

/-- The byte behind the slave's text is NUL, the write on the bus carries the text of its
call, and the slave answers a call whose write was delivered with the text of that call. -/
structure Echoes (s : System) : Prop where
  nul : s.slave.dt 7 = 0
  writing : ∀ sendtxt tx, s.place = .writing sendtxt tx → tx = sendtxt.bytes
  waiting : ∀ sendtxt, s.place = .waiting sendtxt true → s.slave.requestEvent = sendtxt.bytes

/-- The boards start with buffers of NULs. -/
lemma echoes_setup : Echoes setup where
  nul := rfl
  writing _ _ h := Place.noConfusion h
  waiting _ h := Place.noConfusion h

/-- A delivery overwrites the seven cells of the text and no other. -/
lemma Echoes.deliver {s : System} (h : Echoes s) {sendtxt : SendTxt} {tx : List UInt8}
    (hplace : s.place = .writing sendtxt tx) (behind : List UInt8) :
    Echoes (step s (.deliver behind)) := by
  obtain rfl := h.writing sendtxt tx hplace
  rw [step_deliver hplace]
  refine ⟨?_, fun _ _ hne => Place.noConfusion hne, fun sendtxt' heq => ?_⟩
  · show (s.slave.receiveEvent sendtxt.bytes behind).dt 7 = 0
    rw [SlaveTest.receiveEvent_dt _ sendtxt.length_eq, store_apply, if_neg (lt_irrefl 7), h.nul]
  · obtain rfl := (Place.waiting.inj heq).1
    exact SlaveTest.requestEvent_receiveEvent _ sendtxt.length_eq behind

/-- No step breaks the invariant, whatever is lost. -/
lemma Echoes.step {s : System} (h : Echoes s) (a : Action) : Echoes (step s a) := by
  unfold I2C.step
  split
  · next sendtxt hplace =>
    refine ⟨h.nul, fun sendtxt' tx heq => ?_, fun _ hne => Place.noConfusion hne⟩
    obtain ⟨rfl, rfl⟩ := Place.writing.inj heq
    exact MasterTest.write_memcpy s.master sendtxt
  · next sendtxt tx behind hplace =>
    rw [← step_deliver hplace behind]
    exact h.deliver hplace behind
  · refine ⟨h.nul, fun _ _ hne => Place.noConfusion hne, fun sendtxt' heq => ?_⟩
    exact absurd (Place.waiting.inj heq).2 Bool.false_ne_true
  · exact ⟨h.nul, fun _ _ hne => Place.noConfusion hne, fun _ hne => Place.noConfusion hne⟩
  · exact h

/-- The slave prints the text that is delivered. -/
lemma Echoes.slave_serial {s : System} (h : Echoes s) {a : Action} {sendtxt : SendTxt}
    (hd : delivery s a = some sendtxt) :
    (I2C.step s a).slave.serial = s.slave.serial ++ sendtxt.bytes := by
  obtain ⟨tx, behind, hplace, rfl⟩ := delivery_eq_some_iff.mp hd
  obtain rfl := h.writing sendtxt tx hplace
  rw [step_deliver hplace]
  exact SlaveTest.receiveEvent_serial s.slave sendtxt h.nul behind

/-- A read that returns all seven bytes prints the slave's answer, and goes on behind it. -/
lemma master_serial {s : System} {sendtxt : SendTxt} {delivered : Bool}
    (hplace : s.place = .waiting sendtxt delivered) {returned : Fin 8}
    (hseven : returned.val = 7) (stack : List UInt8) :
    (step s (.read returned stack)).master.serial =
      s.master.serial ++ cstring (s.slave.requestEvent ++ stack) ++ crlf := by
  have hlen : s.slave.requestEvent.length = 7 := length_cut ..
  rw [step_read hplace, hseven, List.take_of_length_le hlen.le]
  exact MasterTest.receive_serial s.master hlen stack

/-! ## Runs -/

section Runs

variable (acts : ℕ → Action)

/-- The system before step `n`. -/
def before (n : ℕ) : System := run step setup acts n

/-- The text that step `n` delivers. -/
def deliveredAt (n : ℕ) : Option SendTxt := delivery (before acts n) (acts n)

/-- Step `n` ends a call of `i2csend(sendtxt)` whose write was delivered and whose read
returns seven bytes; `stack` stands behind the array that is printed. -/
def Returns (n : ℕ) (sendtxt : SendTxt) (stack : List UInt8) : Prop :=
  (before acts n).place = .waiting sendtxt true ∧
    ∃ returned, acts n = .read returned stack ∧ returned.val = 7

/-- In step `n` the master prints the text of a call that returns, and the slave prints the
text that is delivered. -/
structure EchoAt (n : ℕ) : Prop where
  master : ∀ sendtxt stack, Returns acts n sendtxt stack →
    (before acts (n + 1)).master.serial = (before acts n).master.serial ++ sendtxt.bytes ++ crlf
  slave : ∀ sendtxt, deliveredAt acts n = some sendtxt →
    (before acts (n + 1)).slave.serial = (before acts n).slave.serial ++ sendtxt.bytes

/-- The invariant holds in every run. -/
lemma echoes_before (n : ℕ) : Echoes (before acts n) :=
  run_invariant (fun _ s => Echoes s) echoes_setup (fun n _ h => h.step (acts n)) n

/-- A call that returns prints its text and what stands behind it up to the next NUL. -/
lemma master_serial_succ {n : ℕ} {sendtxt : SendTxt} {stack : List UInt8}
    (h : Returns acts n sendtxt stack) :
    (before acts (n + 1)).master.serial =
      (before acts n).master.serial ++ cstring (sendtxt.bytes ++ stack) ++ crlf := by
  obtain ⟨hplace, returned, hread, hseven⟩ := h
  rw [before, run_succ, ← before, hread, master_serial hplace hseven,
    (echoes_before acts n).waiting sendtxt hplace]

/-- In a run both boards print the texts that they get iff every call that returns finds a
NUL behind the master's array. -/
theorem echo_iff :
    (∀ n, EchoAt acts n) ↔
      ∀ n sendtxt stack, Returns acts n sendtxt stack → stack.headD 0 = 0 := by
  constructor
  · intro h n sendtxt stack hreturns
    have hserial := (h n).master sendtxt stack hreturns
    rw [master_serial_succ acts hreturns, List.append_cancel_right_eq,
      List.append_cancel_left_eq, cstring_append_eq_iff sendtxt.zero_notMem] at hserial
    exact hserial
  · intro h n
    refine ⟨fun sendtxt stack hreturns => ?_, fun sendtxt hd => ?_⟩
    · have hnul := h n sendtxt stack hreturns
      rw [master_serial_succ acts hreturns, (cstring_append_eq_iff sendtxt.zero_notMem _).mpr hnul]
    · exact (echoes_before acts n).slave_serial hd

/-- The first text of the master's `loop()`. -/
def asdfghj : SendTxt := ⟨text "ASDFGHJ", by decide, by decide⟩

/-- One call, nothing lost, and an asterisk on the stack: the master prints it, too. -/
theorem echo_runs_on : ¬ ∀ (acts : ℕ → Action) (n : ℕ), EchoAt acts n := by
  intro h
  have hserial := (h (fun n => if n = 0 then .i2csend asdfghj else if n = 1 then .deliver []
    else .read 7 [0x2A]) 2).master asdfghj [0x2A] ⟨rfl, 7, rfl, rfl⟩
  revert hserial
  decide +kernel

end Runs
end ArduinoProjects.I2C
