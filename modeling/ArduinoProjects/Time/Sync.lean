import ArduinoProjects.Time.Clock
import ArduinoProjects.Util.History

/-!
# The sync status

`timeStatus()` tells whether the clock was ever set and whether the provider failed since
(`status_of_runs`), and `now()` leaves the provider alone until `syncInterval` seconds
after the clock was set and asks it at the first call after that (`idle_iff`).
-/

namespace ArduinoProjects.Time

open Util

/-! ## The status -/

/-- What an action does to the status. -/
def timeStatus_t.step (s : timeStatus_t) : Action → timeStatus_t
  | .idle | .adjust _ => s
  | .set _ _ => .timeSet
  | .failed => if s = .timeNotSet then .timeNotSet else .timeNeedsSync

/-- The loop leaves everything but the time alone. -/
lemma countSeconds_frame {c c' : Clock} {instants rest : List ℕ}
    (h : countSeconds c instants = some (c', rest)) :
    c' = { c with sysTime := c'.sysTime, prevMillis := c'.prevMillis } := by
  induction instants generalizing c with
  | nil => cases h
  | cons ms instants ih =>
    rw [countSeconds] at h
    split at h
    · have hframe := ih h
      exact hframe
    · cases h
      rfl

/-- What `now()` does to the status. -/
lemma now_status {c c' : Clock} {instants : List ℕ} {provided : UInt32} {a : Action}
    (h : now c instants provided = some (c', a)) : c'.Status = c.Status.step a := by
  obtain ⟨⟨c₁, rest⟩, hcount, hsync⟩ := Option.bind_eq_some_iff.mp h
  have hframe : c₁.Status = c.Status := by rw [countSeconds_frame hcount]
  rw [← hframe]
  cases sync_cases hsync <;> rfl

/-- What a call does to the status. -/
lemma step_status {c c' : Clock} {e : Event} {a : Action} (h : step c e = some (c', a)) :
    c'.Status = c.Status.step a := by
  cases e with
  | now instants provided => exact now_status h
  | setSyncProvider getTimeFunction instants provided =>
    -- the status before the call of `now()` is that of `c`
    have hstatus := now_status (c := { c with
      getTimePtr := getTimeFunction, nextSyncTime := c.sysTime }) h
    exact hstatus
  | setTime t ms =>
    cases h
    rfl
  | adjustTime adjustment =>
    cases h
    rfl
  | setSyncInterval interval =>
    cases h
    rfl

/-- What a run does to the status. -/
lemma runs_status {c c' : Clock} {es : List Event} {as : List Action}
    (h : runs c es = some (c', as)) : c'.Status = as.foldl timeStatus_t.step c.Status := by
  induction es generalizing c as with
  | nil =>
    cases h
    rfl
  | cons e es ih =>
    obtain ⟨⟨c₁, a⟩, hstep, hrest⟩ := Option.bind_eq_some_iff.mp h
    obtain ⟨⟨c₂, as₂⟩, hruns, heq⟩ := Option.map_eq_some_iff.mp hrest
    cases heq
    have hfold := ih hruns
    rw [step_status hstep] at hfold
    exact hfold

/-- The clock was set, by the sketch or by the provider. -/
def Action.IsSet : Action → Prop
  | .set _ _ => True
  | _ => False

/-- The status tells whether the clock was set, and whether a failure followed. -/
lemma foldl_status (as : List Action) :
    (as.foldl timeStatus_t.step .timeNotSet = .timeNotSet ↔ ∀ a ∈ as, ¬ a.IsSet) ∧
    (as.foldl timeStatus_t.step .timeNotSet = .timeSet ↔
      SinceIn Action.IsSet (· = .failed) as) := by
  induction as using List.reverseRecOn with
  | nil => simp [SinceIn]
  | append_singleton as a ih =>
    rw [List.foldl_append, List.foldl_cons, List.foldl_nil, sinceIn_concat]
    simp only [List.mem_append, List.mem_singleton, or_imp, forall_and, forall_eq]
    rw [← ih.1, ← ih.2]
    generalize as.foldl timeStatus_t.step .timeNotSet = s
    cases a <;> cases s <;> simp [timeStatus_t.step, Action.IsSet]

/-- From the start on: not set as long as nothing has set the clock, set as long as no
failure of the provider has followed, in need of a sync otherwise. -/
theorem status_of_runs {c : Clock} {es : List Event} {as : List Action}
    (h : runs .boot es = some (c, as)) :
    (c.Status = .timeNotSet ↔ ∀ a ∈ as, ¬ a.IsSet) ∧
    (c.Status = .timeSet ↔ SinceIn Action.IsSet (· = .failed) as) := by
  rw [runs_status h]
  exact foldl_status as

/-- A clock that the sketch sets before it names a provider that has no time. -/
def setThenFailed : List Event := [.setTime 1467331200 0, .setSyncProvider true [0] 0]

/-- A provider that fails after the clock was set. -/
theorem status_set_then_failed : ∃ c as, runs .boot setThenFailed = some (c, as) ∧
    (c.Status = .timeNotSet ↔ ∀ a ∈ as, ¬ a.IsSet) ∧
    (c.Status = .timeSet ↔ SinceIn Action.IsSet (· = .failed) as) :=
  ⟨_, _, rfl, status_of_runs (show runs .boot setThenFailed = some _ from rfl)⟩

/-! ## When the provider is asked -/

/-- The calls of `now()`. -/
def Event.IsNow : Event → Prop
  | .now _ _ => True
  | _ => False

/-- The clock was set to `t` at the instant `ms₀` and has not asked its provider since. -/
structure Clock.Waiting (c : Clock) (t interval : UInt32) (ms₀ ms : ℕ) : Prop where
  follows : c.Follows ⟨t, ms₀⟩ ms
  nextSyncTime : c.nextSyncTime = t + interval
  getTimePtr : c.getTimePtr = true

/-- A call does not end before it began. -/
lemma Event.le_last {e : Event} {ms : ℕ} (h : e.Timely ms) : ms ≤ e.last ms := by
  unfold Event.last
  have hrange := h.range
  generalize e.instants = instants at hrange
  rcases List.eq_nil_or_concat' instants with rfl | ⟨pre, x, rfl⟩
  · exact le_rfl
  · rw [List.getLastD_concat]
    exact (hrange x (by simp)).1

/-- A run does not end before it began. -/
lemma le_lastInstant {ms : ℕ} {es : List Event} (h : Timely ms es) : ms ≤ lastInstant ms es := by
  induction es generalizing ms with
  | nil => exact le_rfl
  | cons e es ih => exact le_trans (Event.le_last h.1) (ih h.2)

/-- A call of a waiting clock: whether it asks depends on the instant `ms₁` at which its loop
ends. -/
lemma Clock.Waiting.now {c c' : Clock} {t interval provided : UInt32} {ms₀ ms : ℕ}
    {instants : List ℕ} {a : Action} (h : c.Waiting t interval ms₀ ms)
    (hnext : t.toNat + interval.toNat < 2 ^ 32) (he : (Event.now instants provided).Timely ms)
    (hnow : now c instants provided = some (c', a)) :
    ∃ ms₁, ms₁ ≤ instants.getLastD ms ∧
      (t.toNat + (ms₁ - ms₀) / 1000 < 2 ^ 32 →
        (a = .idle ↔ (ms₁ - ms₀) / 1000 < interval.toNat)) ∧
      (a = .idle → instants.getLastD ms = ms₁ ∧ c'.Waiting t interval ms₀ ms₁) := by
  obtain ⟨⟨c₁, rest⟩, hcount, hsync⟩ := Option.bind_eq_some_iff.mp hnow
  obtain ⟨ms₁, pre, heq, hfollows, hframe⟩ :=
    h.follows.countSeconds he.sorted he.range hcount
  have heq' : instants = pre ++ ms₁ :: rest := heq
  have hlast : instants.getLastD ms = rest.getLastD ms₁ := by
    rw [heq', getLastD_append_cons]
  have hwaiting : c₁.Waiting t interval ms₀ ms₁ :=
    ⟨hfollows, by rw [hframe]; exact h.nextSyncTime, by rw [hframe]; exact h.getTimePtr⟩
  -- the next sync is due when the seconds since `ms₀` reach the interval
  have hdue (hsmall : t.toNat + (ms₁ - ms₀) / 1000 < 2 ^ 32) :
      (c₁.nextSyncTime ≤ c₁.sysTime ∧ c₁.getTimePtr) ↔
        interval.toNat ≤ (ms₁ - ms₀) / 1000 := by
    rw [hwaiting.getTimePtr, hwaiting.nextSyncTime, hfollows.sysTime, Reference.timeAt,
      UInt32.le_iff_toNat_le, UInt32.toNat_add, UInt32.toNat_add, UInt32.toNat_ofNat']
    dsimp only
    rw [Nat.mod_eq_of_lt hnext, Nat.mod_eq_of_lt (show (ms₁ - ms₀) / 1000 < 2 ^ 32 by omega),
      Nat.mod_eq_of_lt hsmall, and_iff_left rfl]
    omega
  rw [hlast]
  cases sync_cases hsync with
  | idle hidle =>
    exact ⟨ms₁, le_rfl, fun hsmall => iff_of_true rfl (by rw [hdue hsmall] at hidle; omega),
      fun _ => ⟨rfl, hwaiting⟩⟩
  | set hasked hgood =>
    rename_i ms₂
    refine ⟨ms₁, ?_, fun hsmall => iff_of_false (fun h => by cases h) ?_, fun h => by cases h⟩
    · -- the instant that `setTime` reads comes after the loop
      have hsorted := he.sorted
      simp only [Event.instants, heq', List.pairwise_append, List.pairwise_cons] at hsorted
      exact hsorted.2.1.1 ms₂ (by simp)
    · rw [hdue hsmall] at hasked
      omega
  | failed hasked =>
    refine ⟨ms₁, le_rfl, fun hsmall => iff_of_false (fun h => by cases h) ?_, fun h => by cases h⟩
    rw [hdue hsmall] at hasked
    omega

/-- A clock that has waited less than the interval asks for nothing in a run iff the run ends
before the interval is over. -/
lemma Clock.Waiting.runs {c c' : Clock} {t interval : UInt32} {ms₀ ms : ℕ} {es : List Event}
    {as : List Action} (h : c.Waiting t interval ms₀ ms)
    (hnext : t.toNat + interval.toNat < 2 ^ 32) (hes : ∀ e ∈ es, e.IsNow)
    (htimely : Timely ms es) (hms : (ms - ms₀) / 1000 < interval.toNat)
    (hlast : t.toNat + (lastInstant ms es - ms₀) / 1000 < 2 ^ 32)
    (hruns : runs c es = some (c', as)) :
    (∀ a ∈ as, a = .idle) ↔ (lastInstant ms es - ms₀) / 1000 < interval.toNat := by
  induction es generalizing c ms as with
  | nil =>
    cases hruns
    exact iff_of_true (fun a ha => by cases ha) hms
  | cons e es ih =>
    obtain ⟨⟨c₁, a⟩, hstep, hrest⟩ := Option.bind_eq_some_iff.mp hruns
    obtain ⟨⟨c₂, as₂⟩, hruns₂, heq⟩ := Option.map_eq_some_iff.mp hrest
    cases heq
    have hlater := le_lastInstant htimely.2
    have hcons : lastInstant ms (e :: es) = lastInstant (e.last ms) es := rfl
    rw [hcons] at hlast ⊢
    cases e with
    | now instants provided =>
      obtain ⟨ms₁, hle, hidle, hwait⟩ := h.now hnext htimely.1 hstep
      have hle' : ms₁ ≤ (Event.now instants provided).last ms := hle
      have hiff := hidle (by omega)
      rw [List.forall_mem_cons]
      by_cases ha : a = .idle
      · obtain ⟨heq, hwaiting⟩ := hwait ha
        have heq' : (Event.now instants provided).last ms = ms₁ := heq
        rw [heq'] at hlast ⊢
        rw [ih hwaiting (fun e he => hes e (List.mem_cons_of_mem _ he)) (heq' ▸ htimely.2)
          (hiff.mp ha) hlast hruns₂]
        exact and_iff_right ha
      · have hnot : ¬ (ms₁ - ms₀) / 1000 < interval.toNat := fun hlt => ha (hiff.mpr hlt)
        exact iff_of_false (fun hall => ha hall.1) (by omega)
    | setTime t ms => exact absurd (hes _ List.mem_cons_self) id
    | adjustTime adjustment => exact absurd (hes _ List.mem_cons_self) id
    | setSyncProvider g instants provided => exact absurd (hes _ List.mem_cons_self) id
    | setSyncInterval interval => exact absurd (hes _ List.mem_cons_self) id

/-- After the clock was set, calls of `now()` leave the provider alone iff the last of them
ends less than `syncInterval` seconds later. -/
theorem idle_iff {c c' : Clock} {t : UInt32} {ms₀ : ℕ} {es : List Event} {as : List Action}
    (hptr : c.getTimePtr = true) (hpos : 0 < c.syncInterval.toNat)
    (hnext : t.toNat + c.syncInterval.toNat < 2 ^ 32) (hes : ∀ e ∈ es, e.IsNow)
    (htimely : Timely ms₀ es) (hlast : t.toNat + (lastInstant ms₀ es - ms₀) / 1000 < 2 ^ 32)
    (hruns : runs (setTime c t ms₀) es = some (c', as)) :
    (∀ a ∈ as, a = .idle) ↔ (lastInstant ms₀ es - ms₀) / 1000 < c.syncInterval.toNat := by
  have hwaiting : (setTime c t ms₀).Waiting t c.syncInterval ms₀ ms₀ :=
    ⟨.setTime c t ms₀, rfl, hptr⟩
  exact hwaiting.runs hnext hes htimely (by rwa [Nat.sub_self]) hlast hruns

/-- A clock with a provider that it asks every two seconds. -/
def everyTwoSeconds : Clock := { Clock.boot with getTimePtr := true, syncInterval := 2 }

/-- A second and a half is too early. -/
def tooEarly : List Event := [.now [1500, 1500] 7]

lemma isNow_tooEarly : ∀ e ∈ tooEarly, e.IsNow :=
  List.forall_mem_singleton.mpr trivial

/-- It is a timely call. -/
lemma timely_tooEarly : Timely 0 tooEarly := ⟨⟨by decide, by decide⟩, trivial⟩

/-- In this run the provider is left alone. -/
theorem idle_too_early : ∃ c' as,
    runs (setTime everyTwoSeconds 1467331200 0) tooEarly = some (c', as) ∧
      ((∀ a ∈ as, a = .idle) ↔ 1500 / 1000 < 2) :=
  ⟨_, _, rfl, idle_iff (c := everyTwoSeconds) (t := 1467331200) rfl (by decide) (by decide)
    isNow_tooEarly timely_tooEarly (by decide) rfl⟩

end ArduinoProjects.Time
