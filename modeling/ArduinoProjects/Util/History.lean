import Mathlib.Data.List.GetD
import Mathlib.Data.List.Induction
import Mathlib.Data.Nat.Basic
import Mathlib.Order.Basic
import Mathlib.Tactic.Push

/-!
# Runs of a step function, latches and sampled values

A program that is called over and over is a step function on its state. This file fixes
the vocabulary in which its long-run behaviour is stated:

* `run`, the states such a program passes through, and the induction rule for it;
* `Since`, what a latch remembers that an event sets and another event clears;
* `latest` and `held`, what a sample-and-hold register remembers;
* `log_eq`, what a log contains that some inputs append to.

The recursion lemmas (`since_succ`, `held_succ`) are the form in which a state invariant
meets them: one step of the program against one step of the history.
-/

namespace ArduinoProjects.Util

variable {σ ι α : Type*}

/-! ## Runs -/

/-- The state before input `n`, from `s₀`. -/
def run (step : σ → ι → σ) (s₀ : σ) (inp : ℕ → ι) : ℕ → σ
  | 0 => s₀
  | n + 1 => step (run step s₀ inp n) (inp n)

@[simp] lemma run_zero (step : σ → ι → σ) (s₀ : σ) (inp : ℕ → ι) :
    run step s₀ inp 0 = s₀ := rfl

lemma run_succ (step : σ → ι → σ) (s₀ : σ) (inp : ℕ → ι) (n : ℕ) :
    run step s₀ inp (n + 1) = step (run step s₀ inp n) (inp n) := rfl

/-- The states before input `n` depend on the inputs before it only. -/
lemma run_congr {step : σ → ι → σ} {s₀ : σ} {inp inp' : ℕ → ι} {n : ℕ}
    (h : ∀ m < n, inp m = inp' m) : run step s₀ inp n = run step s₀ inp' n := by
  induction n with
  | zero => rfl
  | succ n ih =>
    rw [run_succ, run_succ, ih fun m hm => h m (by omega), h n (Nat.lt_succ_self n)]

/-- A list of inputs is the beginning of a run. -/
lemma foldl_eq_run (step : σ → ι → σ) (s₀ : σ) (l : List ι) (d : ι) :
    l.foldl step s₀ = run step s₀ (fun m => l.getD m d) l.length := by
  induction l using List.reverseRecOn with
  | nil => rfl
  | append_singleton l a ih =>
    have hbefore : run step s₀ (fun m => (l ++ [a]).getD m d) l.length =
        run step s₀ (fun m => l.getD m d) l.length :=
      run_congr fun m hm => List.getD_append _ _ _ _ hm
    have hlast : (l ++ [a]).getD l.length d = a := by
      rw [List.getD_append_right _ _ _ _ le_rfl, Nat.sub_self, List.getD_cons_zero]
    rw [List.foldl_append, ih, List.length_append, List.length_singleton, run_succ, hbefore, hlast]
    rfl

/-- What holds initially and survives each input holds before every input. -/
theorem run_invariant {step : σ → ι → σ} {s₀ : σ} {inp : ℕ → ι} (P : ℕ → σ → Prop)
    (h_init : P 0 s₀) (h_step : ∀ n s, P n s → P (n + 1) (step s (inp n))) (n : ℕ) :
    P n (run step s₀ inp n) := by
  induction n with
  | zero => exact h_init
  | succ n ih => exact h_step n _ ih

/-- A condition on single steps under which what holds initially goes on holding, and without
which it does not, is the condition under which it holds all the way. -/
theorem foldl_invariant_iff {step : σ → ι → σ} {s₀ : σ} {P : σ → Prop} {C : σ → ι → Prop}
    (h_init : P s₀) (h_step : ∀ s a, P s → (P (step s a) ↔ C s a)) (l : List ι) :
    (∀ l', l' <+: l → P (l'.foldl step s₀)) ↔
      ∀ l' a, l' ++ [a] <+: l → C (l'.foldl step s₀) a := by
  have hconcat (l' : List ι) (a : ι) :
      (l' ++ [a]).foldl step s₀ = step (l'.foldl step s₀) a := by
    rw [List.foldl_append]
    rfl
  constructor
  · intro h l' a hpre
    have hbefore := h l' ((List.prefix_append l' [a]).trans hpre)
    rw [← h_step _ a hbefore, ← hconcat]
    exact h _ hpre
  · intro h l' hpre
    induction l' using List.reverseRecOn with
    | nil => exact h_init
    | append_singleton l' a ih =>
      rw [hconcat, h_step _ a (ih ((List.prefix_append l' [a]).trans hpre))]
      exact h l' a hpre

/-! ## Latches -/

/-- Some `set` event at or before `n` has no `reset` event at or after it that is
before `n`. A `reset` at `n` itself comes too late to count. -/
def Since (set reset : ℕ → Prop) (n : ℕ) : Prop :=
  ∃ k ≤ n, set k ∧ ∀ j, k ≤ j → j < n → ¬ reset j

lemma since_zero (set reset : ℕ → Prop) : Since set reset 0 ↔ set 0 := by
  constructor
  · intro ⟨k, hk, hset, _⟩
    rwa [Nat.le_zero.mp hk] at hset
  · intro hset
    exact ⟨0, le_rfl, hset, fun j _ hj => absurd hj (Nat.not_lt_zero j)⟩

/-- One step of a latch: the old value survives unless it was reset. -/
lemma since_succ (set reset : ℕ → Prop) (n : ℕ) :
    Since set reset (n + 1) ↔ set (n + 1) ∨ (Since set reset n ∧ ¬ reset n) := by
  constructor
  · intro ⟨k, hk, hset, hclear⟩
    by_cases hnk : n < k
    · have : k = n + 1 := by omega
      exact Or.inl (this ▸ hset)
    · have hkn : k ≤ n := by omega
      refine Or.inr ⟨⟨k, hkn, hset, fun j hj hjn => hclear j hj (by omega)⟩, ?_⟩
      exact hclear n hkn (Nat.lt_succ_self n)
  · intro h
    rcases h with hset | ⟨⟨k, hk, hset, hclear⟩, hn⟩
    · -- a set event at `n + 1` leaves no room for a reset
      exact ⟨n + 1, le_rfl, hset, fun j hj hjn => absurd hjn (by omega)⟩
    · refine ⟨k, by omega, hset, fun j hj hjn => ?_⟩
      by_cases hlt : j < n
      · exact hclear j hj hlt
      · have : j = n := by omega
        exact this ▸ hn

/-- The same in a list: some element satisfies `set` and none behind it satisfies `reset`. -/
def SinceIn (set reset : α → Prop) : List α → Prop
  | [] => False
  | a :: l => (set a ∧ ∀ b ∈ l, ¬ reset b) ∨ SinceIn set reset l

/-- One more element at the end. -/
lemma sinceIn_concat (set reset : α → Prop) (l : List α) (a : α) :
    SinceIn set reset (l ++ [a]) ↔ set a ∨ (SinceIn set reset l ∧ ¬ reset a) := by
  induction l with
  | nil => simp [SinceIn]
  | cons b l ih =>
    rw [List.cons_append, SinceIn, SinceIn, ih]
    simp only [List.mem_append, List.mem_singleton, or_imp, forall_and, forall_eq]
    tauto

/-! ## Sampled values -/

/-- The latest index `≤ n` that satisfies `p`. -/
def latest (p : ℕ → Prop) [DecidablePred p] : ℕ → Option ℕ
  | 0 => if p 0 then some 0 else none
  | n + 1 => if p (n + 1) then some (n + 1) else latest p n

lemma latest_eq_none_iff (p : ℕ → Prop) [DecidablePred p] (n : ℕ) :
    latest p n = none ↔ ∀ m ≤ n, ¬ p m := by
  induction n with
  | zero => simp [latest]
  | succ n ih =>
    rw [latest]
    split
    · next hp => exact iff_of_false (by simp) (fun h => h (n + 1) le_rfl hp)
    · next hp =>
      rw [ih]
      constructor
      · intro h m hm
        by_cases hmn : m ≤ n
        · exact h m hmn
        · have : m = n + 1 := by omega
          exact this ▸ hp
      · intro h m hm
        exact h m (by omega)

/-- An index that satisfies `p` is the last one up to itself. -/
lemma some_eq_some_iff_last {p : ℕ → Prop} {n : ℕ} (hp : p n) (m : ℕ) :
    some n = some m ↔ m ≤ n ∧ p m ∧ ∀ k, m < k → k ≤ n → ¬ p k := by
  rw [Option.some.injEq]
  constructor
  · rintro rfl
    exact ⟨le_rfl, hp, fun k hk hkn => absurd hk (not_lt.mpr hkn)⟩
  · intro ⟨hm, _, hlast⟩
    by_contra hne
    exact hlast n (by omega) le_rfl hp

/-- `latest p n` is the index the word "latest" names. -/
lemma latest_eq_some_iff (p : ℕ → Prop) [DecidablePred p] (n m : ℕ) :
    latest p n = some m ↔ m ≤ n ∧ p m ∧ ∀ k, m < k → k ≤ n → ¬ p k := by
  induction n with
  | zero =>
    rw [latest]
    split
    · next hp => exact some_eq_some_iff_last hp m
    · next hp =>
      refine iff_of_false (by simp) ?_
      intro ⟨hm, hpm, _⟩
      exact hp (Nat.le_zero.mp hm ▸ hpm)
  | succ n ih =>
    rw [latest]
    split
    · next hp => exact some_eq_some_iff_last hp m
    · next hp =>
      rw [ih]
      constructor
      · intro ⟨hm, hpm, hlast⟩
        refine ⟨by omega, hpm, fun k hk hkn => ?_⟩
        by_cases hkn' : k ≤ n
        · exact hlast k hk hkn'
        · exact (show k = n + 1 by omega) ▸ hp
      · intro ⟨hm, hpm, hlast⟩
        have hne : m ≠ n + 1 := fun h => hp (h ▸ hpm)
        exact ⟨by omega, hpm, fun k hk hkn => hlast k hk (by omega)⟩

/-- The value `v` had at the latest index `≤ n` that satisfies `p`, or `init`. -/
def held (p : ℕ → Prop) [DecidablePred p] (v : ℕ → α) (init : α) (n : ℕ) : α :=
  match latest p n with
  | some m => v m
  | none => init

lemma held_zero (p : ℕ → Prop) [DecidablePred p] (v : ℕ → α) (init : α) :
    held p v init 0 = if p 0 then v 0 else init := by
  unfold held
  rw [latest]
  split_ifs <;> rfl

/-- One step of a sample-and-hold register. -/
lemma held_succ (p : ℕ → Prop) [DecidablePred p] (v : ℕ → α) (init : α) (n : ℕ) :
    held p v init (n + 1) = if p (n + 1) then v (n + 1) else held p v init n := by
  unfold held
  rw [latest]
  split_ifs <;> rfl

lemma held_of_latest {p : ℕ → Prop} [DecidablePred p] {v : ℕ → α} {init : α} {n m : ℕ}
    (h : latest p n = some m) : held p v init n = v m := by
  rw [held, h]

lemma held_of_none {p : ℕ → Prop} [DecidablePred p] {v : ℕ → α} {init : α} {n : ℕ}
    (h : latest p n = none) : held p v init n = init := by
  rw [held, h]

/-- An index that satisfies `p` is its own latest. -/
lemma held_of_pos {p : ℕ → Prop} [DecidablePred p] {v : ℕ → α} {init : α} {n : ℕ} (h : p n) :
    held p v init n = v n := by
  cases n with
  | zero => rw [held_zero, if_pos h]
  | succ n => rw [held_succ, if_pos h]

/-- A variable that takes the value `v n` in every step that satisfies `p` holds the latest. -/
theorem eq_held (x : ℕ → α) {p : ℕ → Prop} [DecidablePred p] {v : ℕ → α}
    (h : ∀ n, x (n + 1) = if p n then v n else x n) (n : ℕ) :
    x (n + 1) = held p v (x 0) n := by
  induction n with
  | zero => rw [h, held_zero]
  | succ n ih => rw [h, held_succ, ih]

/-- What holds of the initial value holds of the register iff it holds of every sample. -/
theorem forall_held_iff {p : ℕ → Prop} [DecidablePred p] {v : ℕ → α} {init : α} (Q : α → Prop)
    (hinit : Q init) : (∀ n, Q (held p v init n)) ↔ ∀ n, p n → Q (v n) := by
  constructor
  · intro h n hp
    have hn := h n
    rwa [held_of_pos hp] at hn
  · intro h n
    cases hlast : latest p n with
    | none => rwa [held_of_none hlast]
    | some m =>
      rw [held_of_latest hlast]
      exact h m ((latest_eq_some_iff p n m).mp hlast).2.1

/-! ## Logs -/

/-- A log that grows by `f n` whenever `p n` holds. -/
theorem log_eq (log : ℕ → List α) (p : ℕ → Prop) [DecidablePred p] {f : ℕ → α}
    (h : ∀ n, log (n + 1) = if p n then log n ++ [f n] else log n) (n : ℕ) :
    log n = log 0 ++ ((List.range n).filter (p ·)).map f := by
  induction n with
  | zero => rw [List.range_zero, List.filter_nil, List.map_nil, List.append_nil]
  | succ n ih =>
    rw [h, ih, List.range_succ, List.filter_append, List.map_append]
    have hlast : [n].filter (p ·) = if p n then [n] else [] := by
      by_cases hp : p n <;> simp [hp]
    rw [hlast]
    split
    · rw [List.map_singleton, List.append_assoc]
    · rw [List.map_nil, List.append_nil]

end ArduinoProjects.Util
