import ArduinoProjects.FixedCount.Receive

/-!
# What a counted loop stores

A loop that reads whether or not a byte is waiting stores a byte of its own making when
none is. Until the first such read the bytes it has stored are those the port has handed
out (`stored_eq_taken`); with it they stop being a beginning of what was received, which
`no_data_invented_iff` turns into an equivalence.
-/

namespace ArduinoProjects.FixedCount

open Util

variable {σ ι : Type*} (k : Sketch) (rest : σ → (ℕ → UInt8) → ι → σ) (data : σ)
  (ev : ℕ → Event UInt8 ι)

/-- Step `n` is a `Serial.read()` of the loop. -/
def Reads (n : ℕ) : Prop :=
  (ev n).IsPoll ∧ ∃ i < k.count, (before k rest data ev n).place = .loop i

/-- The bytes stored before step `n`, and those written back, are the first ones received. -/
def NothingInvented (n : ℕ) : Prop :=
  (before k rest data ev n).stored <+: (before k rest data ev n).port.received ∧
    (before k rest data ev n).echoed <+: (before k rest data ev n).port.received

/-! ## One step -/

/-- The other steps leave the port's books and the stored bytes alone. -/
lemma before_succ_of_not_reads {n : ℕ} (h : ¬ Reads k rest data ev n) :
    (before k rest data ev (n + 1)).stored = (before k rest data ev n).stored ∧
      (before k rest data ev (n + 1)).echoed = (before k rest data ev n).echoed ∧
      (before k rest data ev (n + 1)).port.taken = (before k rest data ev n).port.taken := by
  rw [before, run_succ, ← before]
  cases hev : ev n with
  | arrive b => exact ⟨rfl, rfl, rfl⟩
  | poll env =>
    unfold step advance
    cases hs : (before k rest data ev n).place with
    | start => split_ifs <;> exact ⟨rfl, rfl, rfl⟩
    | loop i =>
      have hlt : ¬ i < k.count := fun hlt => h ⟨by rw [hev]; trivial, i, hlt, hs⟩
      simp only [if_neg hlt]
      exact ⟨rfl, rfl, rfl⟩

/-- A read stores one more byte and takes one from the port, if there is one. -/
lemma before_succ_of_reads {n : ℕ} (h : Reads k rest data ev n) :
    (before k rest data ev (n + 1)).stored =
        (before k rest data ev n).stored ++ [read (before k rest data ev n).port.waiting] ∧
      (before k rest data ev (n + 1)).echoed =
        (if k.echo then
          (before k rest data ev n).echoed ++ [read (before k rest data ev n).port.waiting]
        else (before k rest data ev n).echoed) ∧
      (before k rest data ev (n + 1)).port = (before k rest data ev n).port.pop := by
  obtain ⟨hpoll, i, hlt, hs⟩ := h
  rw [before, run_succ, ← before]
  cases hev : ev n with
  | arrive b =>
    rw [hev] at hpoll
    exact absurd hpoll id
  | poll env =>
    unfold step advance
    simp only [hs, if_pos hlt, iterate, Function.update_self, and_self]

/-- What is written back is what is stored. -/
lemma echoed_eq (n : ℕ) :
    (before k rest data ev n).echoed =
      if k.echo then (before k rest data ev n).stored else [] := by
  induction n with
  | zero =>
    show [] = if k.echo then [] else []
    rw [ite_self]
  | succ n ih =>
    by_cases h : Reads k rest data ev n
    · obtain ⟨hstored, hechoed, -⟩ := before_succ_of_reads k rest data ev h
      rw [hstored, hechoed, ih]
      split <;> rfl
    · obtain ⟨hstored, hechoed, -⟩ := before_succ_of_not_reads k rest data ev h
      rw [hstored, hechoed, ih]

/-! ## Runs -/

/-- As long as every read finds a byte, the loop has stored what the port handed out. -/
lemma stored_eq_taken {n : ℕ}
    (h : ∀ m < n, Reads k rest data ev m → (before k rest data ev m).port.waiting ≠ []) :
    (before k rest data ev n).stored = (before k rest data ev n).port.taken := by
  induction n with
  | zero => rfl
  | succ n ih =>
    have hn := ih fun m hm => h m (by omega)
    by_cases hreads : Reads k rest data ev n
    · obtain ⟨hstored, -, hport⟩ := before_succ_of_reads k rest data ev hreads
      obtain ⟨b, waiting, hw⟩ :=
        List.exists_cons_of_ne_nil (h n (Nat.lt_succ_self n) hreads)
      rw [hstored, hport, Port.taken_pop, hn, hw]
      rfl
    · obtain ⟨hstored, -, htaken⟩ := before_succ_of_not_reads k rest data ev hreads
      rw [hstored, htaken, hn]

lemma nothingInvented_of_stored {n : ℕ}
    (h : (before k rest data ev n).stored = (before k rest data ev n).port.taken) :
    NothingInvented k rest data ev n := by
  have hpre : (before k rest data ev n).stored <+: (before k rest data ev n).port.received :=
    h ▸ Port.taken_prefix _
  refine ⟨hpre, ?_⟩
  rw [echoed_eq]
  split
  · exact hpre
  · exact List.nil_prefix

/-- A read that finds nothing makes the stored bytes more than were received. -/
lemma not_nothingInvented_of_empty {n : ℕ}
    (h : (before k rest data ev n).stored = (before k rest data ev n).port.taken)
    (hreads : Reads k rest data ev n) (hw : (before k rest data ev n).port.waiting = []) :
    ¬ NothingInvented k rest data ev (n + 1) := by
  intro hnext
  obtain ⟨hstored, -, hport⟩ := before_succ_of_reads k rest data ev hreads
  have hlen := hnext.1.length_le
  rw [hstored, hport, Port.received_pop, Port.received, h, hw, List.length_append,
    List.append_nil, List.length_singleton] at hlen
  omega

/-- In every run of each of the four sketches the loop stores and writes back received
bytes only iff each of its reads finds a byte waiting. -/
theorem no_data_invented_iff :
    (∀ n, NothingInvented k rest data ev n) ↔
      ∀ n, Reads k rest data ev n → (before k rest data ev n).port.waiting ≠ [] := by
  constructor
  · intro h n
    induction n using Nat.strong_induction_on with
    | _ n ih =>
      intro hreads hw
      exact not_nothingInvented_of_empty k rest data ev
        (stored_eq_taken k rest data ev ih) hreads hw (h (n + 1))
  · intro h n
    exact nothingInvented_of_stored k rest data ev (stored_eq_taken k rest data ev fun m _ => h m)

/-- One byte is on the line when the loop starts: the second iteration stores a 255. -/
theorem second_byte_invented :
    ¬ ∀ (k : Sketch) (n : ℕ), NothingInvented k (fun (s : Unit) _ (_ : Unit) => s) ()
      (fun m => if m = 0 then .arrive 0x32 else .poll ()) n := by
  intro h
  have hlen := (h .SDServerSide 4).1.length_le
  revert hlen
  decide

end ArduinoProjects.FixedCount
