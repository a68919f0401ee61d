import ArduinoProjects.Time.Conversion
import ArduinoProjects.Util.Counter

/-!
# The system clock of the Time library

`now()` counts the seconds that `millis()` has passed since the last call and asks the
sync provider when that is due. A call is fed with the values that `millis()` returns in
it, in order; it has a result iff these are the values the call reads, no more and no
fewer. The clock keeps the time it was set to plus the whole seconds since, over any
number of rollovers of the 32-bit millisecond counter (`runs_follows`).
-/

namespace ArduinoProjects.Time

open Util

/-- What `timeStatus()` returns. -/
inductive timeStatus_t
  | timeNotSet
  | timeNeedsSync
  | timeSet
deriving DecidableEq

/-- The static variables of the clock; of the sync provider, whether there is one. -/
structure Clock where
  sysTime : UInt32
  prevMillis : UInt32
  nextSyncTime : UInt32
  Status : timeStatus_t
  syncInterval : UInt32
  getTimePtr : Bool
deriving DecidableEq

/-- The clock at the start. -/
def Clock.boot : Clock where
  sysTime := 0
  prevMillis := 0
  nextSyncTime := 0
  Status := .timeNotSet
  syncInterval := 300
  getTimePtr := false

/-- The value of `millis()` so many milliseconds after the start. -/
def millis (ms : ℕ) : UInt32 := UInt32.ofNat ms

/-- The `while` loop of `now()`, with the instants at which it reads `millis()`; what it
leaves of them is read later in the call. -/
def countSeconds : Clock → List ℕ → Option (Clock × List ℕ)
  | _, [] => none
  | c, ms :: rest =>
    if millis ms - c.prevMillis ≥ 1000 then
      countSeconds { c with sysTime := c.sysTime + 1, prevMillis := c.prevMillis + 1000 } rest
    else some (c, rest)

/-- `setTime(t)`, called at `ms`. -/
def setTime (c : Clock) (t : UInt32) (ms : ℕ) : Clock :=
  { c with
    sysTime := t
    nextSyncTime := t + c.syncInterval
    Status := .timeSet
    prevMillis := millis ms } -- restart counting from now

/-- What a call does to the time. -/
inductive Action
  | idle
  /-- `setTime(t)` at an instant -/
  | set (t : UInt32) (ms : ℕ)
  /-- the provider had no time -/
  | failed
  | adjust (adjustment : Int32)
deriving DecidableEq

/-- The second half of `now()`: ask the provider for the time, which is 0 if it has none. -/
def sync (c : Clock) (provided : UInt32) (instants : List ℕ) : Option (Clock × Action) :=
  if c.nextSyncTime ≤ c.sysTime then
    if c.getTimePtr then
      if provided ≠ 0 then
        match instants with
        | [ms] => some (setTime c provided ms, .set provided ms)
        | _ => none
      else if instants = [] then
        some ({ c with
          nextSyncTime := c.sysTime + c.syncInterval
          Status := if c.Status = .timeNotSet then .timeNotSet else .timeNeedsSync }, .failed)
      else none
    else if instants = [] then some (c, .idle) else none
  else if instants = [] then some (c, .idle) else none

/-- The clock after `now()`, which returns its `sysTime`. -/
def now (c : Clock) (instants : List ℕ) (provided : UInt32) : Option (Clock × Action) :=
  (countSeconds c instants).bind fun (c, rest) => sync c provided rest

/-- The calls of the library that touch the clock. `timeStatus()` and the functions without
an argument are calls of `now()`. -/
inductive Event
  | now (instants : List ℕ) (provided : UInt32)
  | setTime (t : UInt32) (ms : ℕ)
  | adjustTime (adjustment : Int32)
  | setSyncProvider (getTimeFunction : Bool) (instants : List ℕ) (provided : UInt32)
  | setSyncInterval (interval : UInt32)

/-- One call: the clock afterwards and what it did. -/
def step (c : Clock) : Event → Option (Clock × Action)
  | .now instants provided => Time.now c instants provided
  | .setTime t ms => some (Time.setTime c t ms, .set t ms)
  | .adjustTime adjustment =>
    some ({ c with sysTime := c.sysTime + adjustment.toUInt32 }, .adjust adjustment)
  | .setSyncProvider getTimeFunction instants provided =>
    -- this will sync the clock
    Time.now { c with getTimePtr := getTimeFunction, nextSyncTime := c.sysTime } instants provided
  | .setSyncInterval interval =>
    some ({ c with syncInterval := interval, nextSyncTime := c.sysTime + interval }, .idle)

/-- The clock after some calls, and what they did. -/
def runs (c : Clock) : List Event → Option (Clock × List Action)
  | [] => some (c, [])
  | e :: es => (step c e).bind fun (c, a) => (runs c es).map fun (c, as) => (c, a :: as)

/-- What `sync` can do, with the instants it reads. -/
inductive SyncCase (c : Clock) (provided : UInt32) : List ℕ → Clock → Action → Prop
  /-- It is not time yet, or there is no provider. -/
  | idle (h : ¬ (c.nextSyncTime ≤ c.sysTime ∧ c.getTimePtr)) : SyncCase c provided [] c .idle
  | set {ms : ℕ} (h : c.nextSyncTime ≤ c.sysTime ∧ c.getTimePtr) (hgood : provided ≠ 0) :
    SyncCase c provided [ms] (setTime c provided ms) (.set provided ms)
  | failed (h : c.nextSyncTime ≤ c.sysTime ∧ c.getTimePtr) :
    SyncCase c provided []
      { c with
        nextSyncTime := c.sysTime + c.syncInterval
        Status := if c.Status = .timeNotSet then .timeNotSet else .timeNeedsSync } .failed

/-- What asking the provider does. -/
lemma sync_cases {c c' : Clock} {provided : UInt32} {instants : List ℕ} {a : Action}
    (h : sync c provided instants = some (c', a)) : SyncCase c provided instants c' a := by
  unfold sync at h
  split at h
  · next hdue =>
    split at h
    · next hptr =>
      split at h
      · next hgood =>
        split at h
        · cases h
          exact .set ⟨hdue, hptr⟩ hgood
        · cases h
      · split at h
        · next hnil =>
          cases h
          exact hnil ▸ .failed ⟨hdue, hptr⟩
        · cases h
    · next hptr =>
      split at h
      · next hnil =>
        cases h
        exact hnil ▸ .idle fun hasked => hptr hasked.2
      · cases h
  · next hdue =>
    split at h
    · next hnil =>
      cases h
      exact hnil ▸ .idle fun hasked => hdue hasked.1
    · cases h

/-! ## The loop -/

lemma toNat_second : (1000 : UInt32).toNat = 1000 := by decide

/-- A second later, on the counter. -/
lemma millis_add_second (p : ℕ) : millis (p + 1000) = millis p + 1000 := UInt32.ofNat_add p 1000

/-- The last instant of a call, from the one at which the loop ends on. -/
lemma getLastD_append_cons (pre rest : List ℕ) (x d : ℕ) :
    (pre ++ x :: rest).getLastD d = rest.getLastD x := by
  rw [List.getLastD_eq_getLast?, List.getLast?_append_cons, List.getLast?_cons,
    Option.getD_some, List.getLastD_eq_getLast?]

/-- Between the `k`-th and the `k + 1`-th thousand milliseconds after `p` the loop ends,
having counted `k` seconds. -/
lemma countSeconds_spec {c c' : Clock} {p : ℕ} {instants rest : List ℕ}
    (hprev : c.prevMillis = millis p) (hsorted : instants.Pairwise (· ≤ ·))
    (hrange : ∀ ms ∈ instants, p ≤ ms ∧ ms - p < 2 ^ 32)
    (h : countSeconds c instants = some (c', rest)) :
    ∃ k ms pre, instants = pre ++ ms :: rest ∧ p + 1000 * k ≤ ms ∧ ms < p + 1000 * (k + 1) ∧
      c' = { c with
        sysTime := c.sysTime + UInt32.ofNat k
        prevMillis := millis (p + 1000 * k) } := by
  induction instants generalizing c p with
  | nil => cases h
  | cons ms instants ih =>
    have hms := hrange ms List.mem_cons_self
    have hdiff : (millis ms - c.prevMillis).toNat = ms - p := by
      rw [hprev]
      exact toNat_ofNat_sub hms.1 hms.2
    rw [countSeconds] at h
    split at h
    · next hge =>
      -- a second has passed at this reading, and so at all later ones
      rw [ge_iff_le, UInt32.le_iff_toNat_le, hdiff, toNat_second] at hge
      have hthousand : p + 1000 ≤ ms := by omega
      rw [List.pairwise_cons] at hsorted
      have hnext : c.prevMillis + 1000 = millis (p + 1000) := by
        rw [hprev, millis_add_second]
      have hlater : ∀ x ∈ instants, p + 1000 ≤ x ∧ x - (p + 1000) < 2 ^ 32 := by
        intro x hx
        have h1 := hsorted.1 x hx
        have h2 := hrange x (List.mem_cons_of_mem _ hx)
        omega
      obtain ⟨k, ms', pre, heq, hlow, hhigh, hc⟩ :=
        ih (c := { c with sysTime := c.sysTime + 1, prevMillis := c.prevMillis + 1000 }) hnext
          hsorted.2 hlater h
      have hp (j : ℕ) : p + 1000 * (j + 1) = p + 1000 + 1000 * j := by
        rw [Nat.mul_succ, Nat.add_assoc, Nat.add_comm 1000]
      rw [← hp] at hlow hhigh
      refine ⟨k + 1, ms', ms :: pre, by rw [heq, List.cons_append], hlow, hhigh, ?_⟩
      have hsum : c.sysTime + UInt32.ofNat (k + 1) = c.sysTime + 1 + UInt32.ofNat k := by
        rw [UInt32.ofNat_add, UInt32.add_assoc, UInt32.add_comm (UInt32.ofNat k), UInt32.ofNat_one]
      rw [hc, hp, hsum]
    · next hlt =>
      rw [Option.some.injEq, Prod.mk.injEq] at h
      obtain ⟨rfl, rfl⟩ := h
      have hlt' : ms - p < 1000 := by
        rw [ge_iff_le, UInt32.le_iff_toNat_le, hdiff, toNat_second] at hlt
        omega
      refine ⟨0, ms, [], rfl, by omega, by omega, ?_⟩
      rw [Nat.mul_zero, Nat.add_zero, ← hprev]
      show c = { c with sysTime := c.sysTime + 0 }
      rw [UInt32.add_zero]

/-! ## The clock and real time -/

/-- An exact clock: the time it was set to, and when. -/
structure Reference where
  base : UInt32
  since : ℕ

/-- The time it shows, in whole seconds. -/
def Reference.timeAt (r : Reference) (ms : ℕ) : UInt32 :=
  r.base + UInt32.ofNat ((ms - r.since) / 1000)

/-- What an action does to the exact clock. -/
def Reference.step (r : Reference) : Action → Reference
  | .idle | .failed => r
  | .set t ms => ⟨t, ms⟩
  | .adjust adjustment => { r with base := r.base + adjustment.toUInt32 }

/-- At the instant `ms` the clock shows the time of the exact clock, and it goes on
counting from that clock's last full second. -/
structure Clock.Follows (c : Clock) (r : Reference) (ms : ℕ) : Prop where
  since_le : r.since ≤ ms
  sysTime : c.sysTime = r.timeAt ms
  prevMillis : c.prevMillis = millis (r.since + (ms - r.since) / 1000 * 1000)

/-- The instants at which a call reads `millis()`. -/
def Event.instants : Event → List ℕ
  | .now instants _ | .setSyncProvider _ instants _ => instants
  | .setTime _ ms => [ms]
  | .adjustTime _ | .setSyncInterval _ => []

/-- The instants of a call come in order, after `ms` and less than a rollover later. -/
structure Event.Timely (ms : ℕ) (e : Event) : Prop where
  sorted : e.instants.Pairwise (· ≤ ·)
  range : ∀ x ∈ e.instants, ms ≤ x ∧ x - ms < 2 ^ 32 - 1000

/-- The last instant of a call that follows the instant `ms`. -/
def Event.last (ms : ℕ) (e : Event) : ℕ := e.instants.getLastD ms

/-- Every call is timely after the one before it. -/
def Timely : ℕ → List Event → Prop
  | _, [] => True
  | ms, e :: es => e.Timely ms ∧ Timely (e.last ms) es

/-- The last instant of a run. -/
def lastInstant (ms : ℕ) (es : List Event) : ℕ := es.foldl Event.last ms

namespace Clock.Follows

variable {c c' : Clock} {r : Reference} {ms : ℕ}

lemma boot_follows : Clock.boot.Follows ⟨0, 0⟩ 0 := ⟨le_rfl, rfl, rfl⟩

/-- A clock that has just been set. -/
lemma setTime (c : Clock) (t : UInt32) (ms : ℕ) : (setTime c t ms).Follows ⟨t, ms⟩ ms where
  since_le := le_rfl
  sysTime := by
    rw [Reference.timeAt, Nat.sub_self]
    exact (UInt32.add_zero t).symm
  prevMillis := by
    rw [Nat.sub_self]
    rfl

/-- The loop brings the clock up to the reading at which it ends, and changes nothing else. -/
lemma countSeconds {instants rest : List ℕ} (h : c.Follows r ms)
    (hsorted : instants.Pairwise (· ≤ ·))
    (hrange : ∀ x ∈ instants, ms ≤ x ∧ x - ms < 2 ^ 32 - 1000)
    (hcount : countSeconds c instants = some (c', rest)) :
    ∃ ms' pre, instants = pre ++ ms' :: rest ∧ c'.Follows r ms' ∧
      c' = { c with sysTime := c'.sysTime, prevMillis := c'.prevMillis } := by
  have hsince := h.since_le
  have hlater : ∀ x ∈ instants, r.since + (ms - r.since) / 1000 * 1000 ≤ x ∧
      x - (r.since + (ms - r.since) / 1000 * 1000) < 2 ^ 32 := by
    intro x hx
    have := hrange x hx
    omega
  obtain ⟨k, ms', pre, heq, hlow, hhigh, rfl⟩ :=
    countSeconds_spec h.prevMillis hsorted hlater hcount
  have hseconds : (ms' - r.since) / 1000 = (ms - r.since) / 1000 + k := by omega
  refine ⟨ms', pre, heq, ⟨by omega, ?_, ?_⟩, rfl⟩
  · show c.sysTime + UInt32.ofNat k = _
    rw [h.sysTime, Reference.timeAt, Reference.timeAt, hseconds, UInt32.ofNat_add,
      UInt32.add_assoc]
  · rw [hseconds, Nat.add_mul, Nat.mul_comm k, Nat.add_assoc]

/-- Asking the provider: a good answer sets the clock, a bad one leaves its time alone. -/
lemma sync {provided : UInt32} {instants : List ℕ} {a : Action} (h : c.Follows r ms)
    (hsync : sync c provided instants = some (c', a)) :
    c'.Follows (r.step a) (instants.getLastD ms) := by
  cases sync_cases hsync with
  | idle _ => exact h
  | set _ _ => exact setTime c provided _
  | failed _ => exact ⟨h.since_le, h.sysTime, h.prevMillis⟩

/-- Every call of `now()` keeps the clock on time. -/
lemma now {provided : UInt32} {instants : List ℕ} {a : Action} (h : c.Follows r ms)
    (hsorted : instants.Pairwise (· ≤ ·))
    (hrange : ∀ x ∈ instants, ms ≤ x ∧ x - ms < 2 ^ 32 - 1000)
    (hnow : now c instants provided = some (c', a)) :
    c'.Follows (r.step a) (instants.getLastD ms) := by
  obtain ⟨⟨c₁, rest⟩, hcount, hsync⟩ := Option.bind_eq_some_iff.mp hnow
  obtain ⟨ms', pre, rfl, hfollows, -⟩ := h.countSeconds hsorted hrange hcount
  rw [getLastD_append_cons]
  exact hfollows.sync hsync

/-- So does every call of the library. -/
lemma step {e : Event} {a : Action} (h : c.Follows r ms) (he : e.Timely ms)
    (hstep : step c e = some (c', a)) : c'.Follows (r.step a) (e.last ms) := by
  cases e with
  | now instants provided => exact h.now he.sorted he.range hstep
  | setTime t ms' =>
    cases hstep
    exact setTime c t ms'
  | adjustTime adjustment =>
    cases hstep
    refine ⟨h.since_le, ?_, h.prevMillis⟩
    show c.sysTime + adjustment.toUInt32 = _
    rw [h.sysTime, Reference.timeAt, UInt32.add_assoc, UInt32.add_comm (UInt32.ofNat _),
      ← UInt32.add_assoc]
    rfl
  | setSyncProvider getTimeFunction instants provided =>
    have hasked : Clock.Follows { c with
        getTimePtr := getTimeFunction, nextSyncTime := c.sysTime } r ms :=
      ⟨h.since_le, h.sysTime, h.prevMillis⟩
    exact hasked.now he.sorted he.range hstep
  | setSyncInterval interval =>
    cases hstep
    exact ⟨h.since_le, h.sysTime, h.prevMillis⟩

end Clock.Follows

/-- The clock stays on time in every run. -/
theorem runs_follows {c c' : Clock} {r : Reference} {ms : ℕ} {es : List Event}
    {as : List Action} (h : c.Follows r ms) (htimely : Timely ms es)
    (hruns : runs c es = some (c', as)) :
    c'.Follows (as.foldl Reference.step r) (lastInstant ms es) := by
  induction es generalizing c r ms as with
  | nil =>
    cases hruns
    exact h
  | cons e es ih =>
    obtain ⟨⟨c₁, a⟩, hstep, hrest⟩ := Option.bind_eq_some_iff.mp hruns
    obtain ⟨⟨c₂, as₂⟩, hruns₂, heq⟩ := Option.map_eq_some_iff.mp hrest
    cases heq
    have hrest := ih (h.step htimely.1 hstep) htimely.2 hruns₂
    exact hrest

/-- From the start on, the clock shows the time it was last set to, with the adjustments
and the whole seconds since. -/
theorem sysTime_of_runs {c : Clock} {es : List Event} {as : List Action}
    (htimely : Timely 0 es) (hruns : runs .boot es = some (c, as)) :
    c.sysTime = (as.foldl Reference.step ⟨0, 0⟩).timeAt (lastInstant 0 es) :=
  (runs_follows Clock.Follows.boot_follows htimely hruns).sysTime

/-- The clock is set a second and a half before the millisecond counter rolls over, and read
a tenth of a second after that. -/
def overRollover : List Event :=
  [.setTime 1467331200 (2 ^ 32 - 1500), .now [2 ^ 32 + 100, 2 ^ 32 + 100] 0]

lemma timely_overRollover : Timely 0 overRollover :=
  ⟨⟨by decide, by decide⟩, ⟨⟨by decide, by decide⟩, trivial⟩⟩

/-- The clock across a rollover. -/
theorem sysTime_over_rollover : ∃ c as, runs .boot overRollover = some (c, as) ∧
    c.sysTime = (as.foldl Reference.step ⟨0, 0⟩).timeAt (lastInstant 0 overRollover) :=
  ⟨_, _, rfl, sysTime_of_runs timely_overRollover rfl⟩

end ArduinoProjects.Time
