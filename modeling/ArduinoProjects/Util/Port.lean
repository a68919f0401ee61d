import ArduinoProjects.Util.History
import Mathlib.Data.List.Basic
import Mathlib.Data.Nat.Count

/-!
# Receive buffers

A serial port keeps what has arrived and has not been read, up to a fixed number of items;
what arrives while it is full is lost. Two kinds of receiver are common: one that reads
a fixed number of items (`Port` keeps the books for it), and one that reads as long as
something is waiting and counts what it reads (`index`). For the second kind
`index_lt_iff` bounds the count by the longest stretch of polls that all find something,
and `Receives` is what a machine has to do to be one of them.
-/

namespace ArduinoProjects.Util

variable {α ι σ : Type*}

/-! ## The buffer -/

/-- The waiting items after one more has arrived. -/
def offer (cap : ℕ) (waiting : List α) (a : α) : List α :=
  if waiting.length < cap then waiting ++ [a] else waiting

lemma length_offer_le {cap : ℕ} {waiting : List α} (h : waiting.length ≤ cap) (a : α) :
    (offer cap waiting a).length ≤ cap := by
  unfold offer
  split
  · next hlt =>
    rw [List.length_append, List.length_singleton]
    exact hlt
  · exact h

/-- A receive buffer: the items read from it so far and the items waiting in it. -/
structure Port (α : Type*) (cap : ℕ) where
  taken : List α
  waiting : List α
  length_le : waiting.length ≤ cap

namespace Port

variable {cap : ℕ}

/-- A port on which nothing has arrived. -/
def empty : Port α cap := ⟨[], [], Nat.zero_le cap⟩

/-- The items the port has accepted. -/
def received (p : Port α cap) : List α := p.taken ++ p.waiting

/-- An item arrives. -/
def arrive (p : Port α cap) (a : α) : Port α cap where
  taken := p.taken
  waiting := offer cap p.waiting a
  length_le := length_offer_le p.length_le a

/-- The first waiting item is read, if there is one. -/
def pop (p : Port α cap) : Port α cap where
  taken := p.taken ++ p.waiting.take 1
  waiting := p.waiting.tail
  length_le := by
    rw [List.length_tail]
    exact (Nat.sub_le _ _).trans p.length_le

lemma taken_pop (p : Port α cap) : p.pop.taken = p.taken ++ p.waiting.take 1 := rfl

/-- Reading loses nothing. -/
@[simp] lemma received_pop (p : Port α cap) : p.pop.received = p.received := by
  show p.taken ++ p.waiting.take 1 ++ p.waiting.tail = p.taken ++ p.waiting
  rw [← List.drop_one, List.append_assoc, List.take_append_drop]

/-- What has been read is the beginning of what has been accepted. -/
lemma taken_prefix (p : Port α cap) : p.taken <+: p.received := List.prefix_append ..

end Port

/-! ## Reading as long as something is waiting -/

/-- An item arrives, or the receiver looks whether something is waiting. -/
inductive Event (α ι : Type*)
  | arrive (a : α)
  | poll (env : ι)

namespace Event

/-- The receiver looks. -/
def IsPoll : Event α ι → Prop
  | arrive _ => False
  | poll _ => True

instance : DecidablePred (IsPoll : Event α ι → Prop) := fun e =>
  match e with
  | arrive _ => isFalse id
  | poll _ => isTrue trivial

end Event

section Polling

variable (cap : ℕ) (ev : ℕ → Event α ι)

/-- The waiting items after one event. -/
def serve (waiting : List α) : Event α ι → List α
  | .arrive a => offer cap waiting a
  | .poll _ => waiting.tail

/-- The items waiting before event `n`. -/
def waiting (n : ℕ) : List α := run (serve cap) [] ev n

/-- How many items the receiver has read since it last found nothing waiting. -/
def index : ℕ → ℕ
  | 0 => 0
  | n + 1 =>
    match ev n with
    | .arrive _ => index n
    | .poll _ => if waiting cap ev n = [] then 0 else index n + 1

/-- Every poll from event `m` up to event `n` finds something waiting. -/
def Busy (m n : ℕ) : Prop := ∀ k, m ≤ k → k < n → (ev k).IsPoll → waiting cap ev k ≠ []

/-- The number of polls before event `n`. -/
def polls (n : ℕ) : ℕ := Nat.count (fun k => (ev k).IsPoll) n

lemma waiting_succ (n : ℕ) : waiting cap ev (n + 1) = serve cap (waiting cap ev n) (ev n) := rfl

/-- What holds of everything that arrives holds of everything that waits. -/
lemma waiting_forall {P : α → Prop} (h : ∀ n a, ev n = .arrive a → P a) (n : ℕ) :
    ∀ a ∈ waiting cap ev n, P a := by
  induction n with
  | zero => exact fun a ha => absurd ha List.not_mem_nil
  | succ n ih =>
    intro a ha
    rw [waiting_succ] at ha
    cases hev : ev n with
    | arrive b =>
      rw [hev, serve, offer] at ha
      split at ha
      · rcases List.mem_append.mp ha with hold | hnew
        · exact ih a hold
        · rw [List.mem_singleton.mp hnew]
          exact h n b hev
      · exact ih a ha
    | poll env =>
      rw [hev, serve] at ha
      exact ih a (List.mem_of_mem_tail ha)

variable {cap ev}

lemma polls_succ_of_arrive {n : ℕ} {a : α} (h : ev n = .arrive a) :
    polls ev (n + 1) = polls ev n := by
  rw [polls, Nat.count_succ, if_neg (by rw [h]; exact id), Nat.add_zero]
  rfl

lemma polls_succ_of_poll {n : ℕ} (h : (ev n).IsPoll) : polls ev (n + 1) = polls ev n + 1 := by
  rw [polls, Nat.count_succ, if_pos h]
  rfl

lemma index_succ_of_arrive {n : ℕ} {a : α} (h : ev n = .arrive a) :
    index cap ev (n + 1) = index cap ev n := by
  rw [index]
  simp only [h]

lemma index_succ_of_empty {n : ℕ} {env : ι} (h : ev n = .poll env) (hw : waiting cap ev n = []) :
    index cap ev (n + 1) = 0 := by
  rw [index]
  simp only [h, if_pos hw]

lemma index_succ_of_found {n : ℕ} {env : ι} (h : ev n = .poll env)
    (hw : waiting cap ev n ≠ []) : index cap ev (n + 1) = index cap ev n + 1 := by
  rw [index]
  simp only [h, if_neg hw]

lemma busy_self (n : ℕ) : Busy cap ev n n := fun _ hk hkn => absurd hkn (not_lt.mpr hk)

lemma Busy.succ {m n : ℕ} (h : Busy cap ev m n)
    (hn : (ev n).IsPoll → waiting cap ev n ≠ []) : Busy cap ev m (n + 1) := by
  intro k hk hkn hpoll
  rcases Nat.lt_succ_iff_lt_or_eq.mp hkn with hlt | rfl
  · exact h k hk hlt hpoll
  · exact hn hpoll

lemma Busy.of_succ {m n : ℕ} (h : Busy cap ev m (n + 1)) : Busy cap ev m n :=
  fun k hk hkn => h k hk (by omega)

/-- In a busy stretch every poll advances the index. -/
lemma polls_le_index {m n : ℕ} (hmn : m ≤ n) (h : Busy cap ev m n) :
    polls ev n ≤ polls ev m + index cap ev n := by
  induction n, hmn using Nat.le_induction with
  | base => exact Nat.le_add_right _ _
  | succ n hmn ih =>
    have hn := ih h.of_succ
    cases hev : ev n with
    | arrive a => rwa [polls_succ_of_arrive hev, index_succ_of_arrive hev]
    | poll env =>
      have hpoll : (ev n).IsPoll := by
        rw [hev]
        trivial
      rw [polls_succ_of_poll hpoll,
        index_succ_of_found hev (h n hmn (Nat.lt_succ_self n) hpoll)]
      omega

/-- The index counts the polls of a busy stretch that ends here. -/
lemma exists_busy (cap : ℕ) (ev : ℕ → Event α ι) (n : ℕ) :
    ∃ m ≤ n, Busy cap ev m n ∧ polls ev n = polls ev m + index cap ev n := by
  induction n with
  | zero => exact ⟨0, le_rfl, busy_self 0, rfl⟩
  | succ n ih =>
    obtain ⟨m, hmn, hbusy, hcount⟩ := ih
    cases hev : ev n with
    | arrive a =>
      refine ⟨m, by omega, hbusy.succ fun hpoll => ?_, ?_⟩
      · rw [hev] at hpoll
        exact absurd hpoll id
      · rw [polls_succ_of_arrive hev, index_succ_of_arrive hev, hcount]
    | poll env =>
      by_cases hempty : waiting cap ev n = []
      · -- the stretch starts over behind this poll
        refine ⟨n + 1, le_rfl, busy_self _, ?_⟩
        rw [index_succ_of_empty hev hempty]
        rfl
      · refine ⟨m, by omega, hbusy.succ fun _ => hempty, ?_⟩
        rw [polls_succ_of_poll (by rw [hev]; trivial), index_succ_of_found hev hempty, hcount,
          Nat.add_assoc]

/-- The index stays below `c` at every read iff no more than `c` polls in a row find
something waiting. -/
theorem index_lt_iff (cap : ℕ) (ev : ℕ → Event α ι) (c : ℕ) :
    (∀ n, (ev n).IsPoll → waiting cap ev n ≠ [] → index cap ev n < c) ↔
      ∀ m n, m ≤ n → Busy cap ev m n → polls ev n ≤ polls ev m + c := by
  constructor
  · intro h m n hmn hbusy
    have hle (k : ℕ) : index cap ev k ≤ c := by
      induction k with
      | zero => exact Nat.zero_le c
      | succ k ih =>
        cases hev : ev k with
        | arrive a => rwa [index_succ_of_arrive hev]
        | poll env =>
          by_cases hempty : waiting cap ev k = []
          · rw [index_succ_of_empty hev hempty]
            exact Nat.zero_le c
          · rw [index_succ_of_found hev hempty]
            exact h k (by rw [hev]; trivial) hempty
    exact (polls_le_index hmn hbusy).trans (Nat.add_le_add_left (hle n) _)
  · intro h n hpoll hfound
    obtain ⟨m, hmn, hbusy, hcount⟩ := exists_busy cap ev n
    have hbound := h m (n + 1) (by omega) (hbusy.succ fun _ => hfound)
    rw [polls_succ_of_poll hpoll] at hbound
    omega

end Polling

/-! ## Machines that read this way -/

/-- A machine that reads as long as something is waiting: `rx` is what is waiting in a
state, `i` the index its loop has reached. -/
structure Receives (cap : ℕ) (step : σ → Event α ι → σ) (rx : σ → List α) (i : σ → ℕ) :
    Prop where
  arrive_rx : ∀ s a, rx (step s (.arrive a)) = offer cap (rx s) a
  arrive_i : ∀ s a, i (step s (.arrive a)) = i s
  poll_rx : ∀ s env, rx (step s (.poll env)) = (rx s).tail
  empty_i : ∀ s env, rx s = [] → i (step s (.poll env)) = 0
  found_i : ∀ s env, rx s ≠ [] → i (step s (.poll env)) = i s + 1

namespace Receives

variable {cap : ℕ} {step : σ → Event α ι → σ} {rx : σ → List α} {i : σ → ℕ} {s₀ : σ}

/-- What is waiting depends on the arrivals and the polls alone. -/
lemma rx_run (h : Receives cap step rx i) (h₀ : rx s₀ = []) (ev : ℕ → Event α ι) (n : ℕ) :
    rx (run step s₀ ev n) = waiting cap ev n := by
  induction n with
  | zero => exact h₀
  | succ n ih =>
    rw [run_succ, waiting_succ]
    cases ev n with
    | arrive a => rw [h.arrive_rx, ih, serve]
    | poll env => rw [h.poll_rx, ih, serve]

/-- So does the index of the loop. -/
lemma i_run (h : Receives cap step rx i) (h₀ : rx s₀ = []) (h₀' : i s₀ = 0)
    (ev : ℕ → Event α ι) (n : ℕ) : i (run step s₀ ev n) = index cap ev n := by
  induction n with
  | zero => exact h₀'
  | succ n ih =>
    have hrx := h.rx_run h₀ ev n
    rw [run_succ]
    cases hev : ev n with
    | arrive a => rw [h.arrive_i, ih, index_succ_of_arrive hev]
    | poll env =>
      by_cases hempty : waiting cap ev n = []
      · rw [h.empty_i _ _ (hrx.trans hempty), index_succ_of_empty hev hempty]
      · rw [h.found_i _ _ (by rwa [hrx]), ih, index_succ_of_found hev hempty]

end Receives

end ArduinoProjects.Util
