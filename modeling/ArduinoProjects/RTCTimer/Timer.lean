import ArduinoProjects.RTCTimer.Event

/-!
# `RTCTimer`

The scheduler is a table of ten slots. When several events may act in one update, every slot
runs as if it were alone (`runs_filter`), so a callback that is set up is called on schedule
(`every_on_schedule`). Otherwise an update serves only the first slot that is due, and ten
updates at one time come to what a single one does in the other mode (`runs_replicate`).
-/

namespace ArduinoProjects

open Util RTCEvent

/-- The number of slots. -/
def MAX_NUMBER_OF_RTCEVENTS : ℕ := 10

/-- The table of slots, and whether an update serves only one of them. The callback for the time
is a parameter of the functions that call it. -/
structure RTCTimer (α : Type*) where
  _events : List (RTCEvent α)
  size : _events.length = MAX_NUMBER_OF_RTCEVENTS
  _noMultipleEvents : Bool

namespace RTCTimer

variable {α : Type*}

/-- The loop of `update` over the slots. -/
def updateFrom (noMultipleEvents : Bool) (now : UInt32) :
    List (RTCEvent α) → Option (List (RTCEvent α) × List (α × UInt32))
  | [] => some ([], [])
  | e :: es =>
    if e._eventType ≠ .RTCEvent_None then
      (e.update now).bind fun u =>
        -- only one event action per update
        if u.doneEvent ∧ noMultipleEvents then some (u.event :: es, u.calls)
        else (updateFrom noMultipleEvents now es).map fun (es, calls) =>
          (u.event :: es, u.calls ++ calls)
    else (updateFrom noMultipleEvents now es).map fun (es, calls) => (e :: es, calls)

lemma length_updateFrom {noMultipleEvents : Bool} {now : UInt32} {es es' : List (RTCEvent α)}
    {calls : List (α × UInt32)} (h : updateFrom noMultipleEvents now es = some (es', calls)) :
    es'.length = es.length := by
  induction es generalizing es' calls with
  | nil =>
    cases h
    rfl
  | cons e es ih =>
    rw [updateFrom] at h
    split at h
    · obtain ⟨u, -, hu⟩ := Option.bind_eq_some_iff.mp h
      split at hu
      · cases hu
        rfl
      · obtain ⟨⟨es₁, calls₁⟩, hrest, heq⟩ := Option.map_eq_some_iff.mp hu
        cases heq
        rw [List.length_cons, List.length_cons, ih hrest]
    · obtain ⟨⟨es₁, calls₁⟩, hrest, heq⟩ := Option.map_eq_some_iff.mp h
      cases heq
      rw [List.length_cons, List.length_cons, ih hrest]

/-- `update(now)`: the scheduler afterwards and the calls of the callbacks. -/
def update (t : RTCTimer α) (now : UInt32) : Option (RTCTimer α × List (α × UInt32)) :=
  match h : updateFrom t._noMultipleEvents now t._events with
  | none => none
  | some (es, calls) =>
    some ({ t with _events := es, size := (length_updateFrom h).trans t.size }, calls)

/-- Updates at certain times. -/
def runs (t : RTCTimer α) : List ℕ → Option (RTCTimer α × List (α × UInt32))
  | [] => some (t, [])
  | ms :: ts => (t.update (UInt32.ofNat ms)).bind fun (t, calls) =>
      (runs t ts).map fun (t, calls') => (t, calls ++ calls')

/-- The index of the first free slot, or -1. -/
def findFreeEventIndex (t : RTCTimer α) : ℤ :=
  match t._events.findIdx? fun e => e._eventType = .RTCEvent_None with
  | some i => i
  | none => -1

/-- A scheduler in static storage; `null` is the null pointer. -/
def initial (null : α) : RTCTimer α where
  _events := List.replicate MAX_NUMBER_OF_RTCEVENTS ⟨.RTCEvent_None, 0, 0, 0, 0, null⟩
  size := List.length_replicate
  _noMultipleEvents := false

/-- `now` is what the callback for the current time returns, if there is one. -/
def every (t : RTCTimer α) (now : Option UInt32) (period : UInt32) (callback : α)
    (repeatCount : ℤ) : ℤ × RTCTimer α :=
  let i := t.findFreeEventIndex
  if i = -1 then (-1, t)
  else
    (i, { t with
      _events := t._events.set i.toNat
        { _eventType := .RTCEvent_Every
          _period := period
          _repeatCount := repeatCount
          _callback := callback
          _lastEventTime := now.getD 0
          _count := 0 }
      size := List.length_set.trans t.size })

/-- `every` fails because no slot is free, or sets up the first free one. -/
lemma every_cases (t : RTCTimer α) (now : Option UInt32) (period : UInt32) (callback : α)
    (repeatCount : ℤ) :
    (t.every now period callback repeatCount = (-1, t) ∧
      ∀ e ∈ t._events, e._eventType ≠ .RTCEvent_None) ∨
    ∃ (i : ℕ) (e : RTCEvent α) (t' : RTCTimer α),
      t.every now period callback repeatCount = (↑i, t') ∧ t._events[i]? = some e ∧
      e._eventType = .RTCEvent_None ∧
      t'._events =
        t._events.set i ⟨.RTCEvent_Every, now.getD 0, period, 0, repeatCount, callback⟩ ∧
      t'._noMultipleEvents = t._noMultipleEvents := by
  cases h : t._events.findIdx? fun e => e._eventType = .RTCEvent_None with
  | none =>
    have hindex : t.findFreeEventIndex = -1 := by
      rw [findFreeEventIndex, h]
    refine Or.inl ⟨?_, fun e he => ?_⟩
    · rw [every]
      exact if_pos hindex
    · exact of_decide_eq_false (List.findIdx?_eq_none_iff.mp h e he)
  | some i =>
    have hindex : t.findFreeEventIndex = i := by
      rw [findFreeEventIndex, h]
    obtain ⟨hlt, hfree, -⟩ := List.findIdx?_eq_some_iff_getElem.mp h
    have hne : t.findFreeEventIndex ≠ -1 := by
      rw [hindex]
      omega
    have hnat : t.findFreeEventIndex.toNat = i := by
      rw [hindex, Int.toNat_natCast]
    refine Or.inr ⟨i, t._events[i], (t.every now period callback repeatCount).2,
      Prod.ext ?_ rfl, List.getElem?_eq_getElem hlt, of_decide_eq_true hfree, ?_, ?_⟩ <;>
      unfold every <;> dsimp only <;> rw [if_neg hne]
    · exact hindex
    · dsimp only
      rw [hnat]

/-- All slots in use count from `now`. -/
def resetAll (t : RTCTimer α) (now : UInt32) : RTCTimer α where
  _events := t._events.map fun e =>
    if e._eventType ≠ .RTCEvent_None then { e with _lastEventTime := now } else e
  size := List.length_map _ |>.trans t.size
  _noMultipleEvents := t._noMultipleEvents

/-- The body of the loop in `adjust`. -/
def adjustEvent (now : UInt32) (diff : Int32) (e : RTCEvent α) : RTCEvent α :=
  if e._eventType ≠ .RTCEvent_None then
    if e._lastEventTime = 0 then { e with _lastEventTime := now }
    else { e with _lastEventTime := e._lastEventTime + diff.toUInt32 }
  else e

/-- The clock was set from `old` to `now`. -/
def adjust (t : RTCTimer α) (old now : UInt32) : RTCTimer α :=
  if old = 0 then t.resetAll now
  else
    { t with
      _events := t._events.map (adjustEvent now (now - old).toInt32)
      size := List.length_map _ |>.trans t.size }

/-- Whether an update may serve several slots. -/
def allowMultipleEvents (t : RTCTimer α) (allow : Bool) : RTCTimer α :=
  { t with _noMultipleEvents := !allow }

lemma update_eq_some {t t' : RTCTimer α} {now : UInt32} {calls : List (α × UInt32)} :
    t.update now = some (t', calls) ↔
      updateFrom t._noMultipleEvents now t._events = some (t'._events, calls) ∧
        t'._noMultipleEvents = t._noMultipleEvents := by
  unfold update
  constructor
  · intro h
    split at h
    · cases h
    · next hrest =>
      cases h
      exact ⟨hrest, rfl⟩
  · intro ⟨h, hmode⟩
    split
    · next hnone =>
      rw [h] at hnone
      cases hnone
    · next es calls' hsome =>
      rw [h] at hsome
      cases hsome
      obtain ⟨es', hsize, mode⟩ := t'
      cases hmode
      rfl

/-- A slot in use that is due. -/
def Waiting (now : UInt32) (e : RTCEvent α) : Prop :=
  e._eventType ≠ .RTCEvent_None ∧ e.Due now

instance (now : UInt32) : DecidablePred (Waiting (α := α) now) :=
  fun _ => inferInstanceAs (Decidable (_ ∧ _))

/-- One turn of the loop. -/
lemma updateFrom_cons (noMultipleEvents : Bool) (now : UInt32) (e : RTCEvent α)
    (es : List (RTCEvent α)) :
    updateFrom noMultipleEvents now (e :: es) =
      if Waiting now e then (e.update now).bind fun u =>
        if noMultipleEvents then some (u.event :: es, u.calls)
        else (updateFrom noMultipleEvents now es).map fun (es, calls) =>
          (u.event :: es, u.calls ++ calls)
      else (updateFrom noMultipleEvents now es).map fun (es, calls) => (e :: es, calls) := by
  rw [updateFrom]
  by_cases hlive : e._eventType ≠ .RTCEvent_None
  · rw [if_pos hlive]
    by_cases hdue : e.Due now
    · rw [if_pos (show Waiting now e from ⟨hlive, hdue⟩), RTCEvent.update, if_pos hdue]
      split
      · simp only [Option.bind_some, fire, true_and]
      · rw [Option.bind_map, Option.bind_map]
        simp only [Function.comp_def, fire, true_and]
    · rw [if_neg (show ¬ Waiting now e from fun h => hdue h.2), RTCEvent.update, if_neg hdue]
      simp only [Option.bind_some, Bool.false_eq_true, false_and, if_false, List.nil_append]
  · rw [if_neg hlive, if_neg (show ¬ Waiting now e from fun h => hlive h.1)]

/-! ## No update hangs -/

/-- Slots in use have a period. -/
def HavePeriods (es : List (RTCEvent α)) : Prop :=
  ∀ e ∈ es, e._eventType ≠ .RTCEvent_None → e._period ≠ 0

/-- The loop ends, and the slots keep their periods. -/
lemma updateFrom_isSome (noMultipleEvents : Bool) (now : UInt32) {es : List (RTCEvent α)}
    (h : HavePeriods es) :
    ∃ es' calls, updateFrom noMultipleEvents now es = some (es', calls) ∧ HavePeriods es' := by
  induction es with
  | nil => exact ⟨[], [], rfl, h⟩
  | cons e es ih =>
    have htail : HavePeriods es := fun e he => h e (List.mem_cons_of_mem _ he)
    obtain ⟨es', calls, hrest, hes'⟩ := ih htail
    rw [updateFrom_cons, hrest]
    by_cases hwaiting : Waiting now e
    · have hperiod := h e List.mem_cons_self hwaiting.1
      obtain ⟨u, hu⟩ := Option.isSome_iff_exists.mp
        ((update_isSome_iff e now).mpr (Or.inl hperiod))
      obtain ⟨last, rfl⟩ := update_of_due hu hwaiting.2
      have hfired : (e.fire now last).event._eventType ≠ .RTCEvent_None →
          (e.fire now last).event._period ≠ 0 := fun _ => by
        rw [fire_period]
        exact hperiod
      rw [if_pos hwaiting, hu, Option.bind_some]
      split
      · exact ⟨_, _, rfl, List.forall_mem_cons.mpr ⟨hfired, htail⟩⟩
      · exact ⟨_, _, rfl, List.forall_mem_cons.mpr ⟨hfired, hes'⟩⟩
    · rw [if_neg hwaiting]
      exact ⟨_, _, rfl, List.forall_mem_cons.mpr ⟨h e List.mem_cons_self, hes'⟩⟩

/-- An update ends, and the slots keep their periods. -/
lemma HavePeriods.update {t : RTCTimer α} (h : HavePeriods t._events) (now : UInt32) :
    ∃ t' calls, t.update now = some (t', calls) ∧ HavePeriods t'._events := by
  obtain ⟨es', calls, hloop, hes'⟩ := updateFrom_isSome t._noMultipleEvents now h
  exact ⟨⟨es', (length_updateFrom hloop).trans t.size, t._noMultipleEvents⟩, calls,
    update_eq_some.mpr ⟨hloop, rfl⟩, hes'⟩

/-- A run over slots with periods goes through. -/
lemma HavePeriods.runs {t : RTCTimer α} (h : HavePeriods t._events) (ts : List ℕ) :
    ∃ t' calls, t.runs ts = some (t', calls) := by
  induction ts generalizing t with
  | nil => exact ⟨t, [], rfl⟩
  | cons ms ts ih =>
    obtain ⟨t₁, calls₁, hupdate, h₁⟩ := h.update (UInt32.ofNat ms)
    obtain ⟨t', calls, hruns⟩ := ih h₁
    refine ⟨t', calls₁ ++ calls, ?_⟩
    rw [RTCTimer.runs, hupdate, Option.bind_some]
    dsimp only
    rw [hruns]
    rfl

/-! ## Many slots at a time -/

/-- The loop polls every slot. -/
lemma updateFrom_false {now : UInt32} {es es' : List (RTCEvent α)} {calls : List (α × UInt32)} :
    updateFrom false now es = some (es', calls) ↔
      ∃ us, List.Forall₂ (fun e u => RTCEvent.poll e now = some u) es us ∧
        es' = us.map Updated.event ∧ calls = us.flatMap Updated.calls := by
  induction es generalizing es' calls with
  | nil =>
    constructor
    · intro h
      cases h
      exact ⟨[], .nil, rfl, rfl⟩
    · rintro ⟨us, hus, rfl, rfl⟩
      cases hus
      rfl
  | cons e es ih =>
    have hstep : updateFrom false now (e :: es) = (RTCEvent.poll e now).bind fun u =>
        (updateFrom false now es).map fun (es, calls) => (u.event :: es, u.calls ++ calls) := by
      rw [updateFrom, RTCEvent.poll]
      split
      · simp only [Bool.false_eq_true, and_false, if_false]
      · rfl
    rw [hstep]
    constructor
    · intro h
      obtain ⟨u, hu, hrest⟩ := Option.bind_eq_some_iff.mp h
      obtain ⟨⟨es₁, calls₁⟩, hes, heq⟩ := Option.map_eq_some_iff.mp hrest
      obtain ⟨us, hus, rfl, rfl⟩ := ih.mp hes
      cases heq
      exact ⟨u :: us, .cons hu hus, rfl, rfl⟩
    · rintro ⟨us, hus, rfl, rfl⟩
      cases hus with
      | cons hu hus =>
        rw [hu, Option.bind_some, ih.mpr ⟨_, hus, rfl, rfl⟩]
        rfl

/-- A slot keeps its callback and calls no other; a free slot calls none and stays free. -/
lemma poll_spec {e : RTCEvent α} {now : UInt32} {u : Updated α}
    (h : RTCEvent.poll e now = some u) :
    u.event._callback = e._callback ∧
      (u.event._eventType = .RTCEvent_Every → e._eventType = .RTCEvent_Every) ∧
      ∀ c ∈ u.calls, e._eventType = .RTCEvent_Every ∧ c.1 = e._callback := by
  have hidle : ∀ c ∈ ([] : List (α × UInt32)),
      e._eventType = .RTCEvent_Every ∧ c.1 = e._callback := fun c hc => by cases hc
  unfold RTCEvent.poll at h
  cases htype : e._eventType with
  | RTCEvent_None =>
    rw [if_neg (not_not.mpr htype)] at h
    cases h
    rw [htype] at hidle
    exact ⟨rfl, fun hlive => htype.symm.trans hlive, hidle⟩
  | RTCEvent_Every =>
    have hfire (last : UInt32) : ∀ c ∈ (e.fire now last).calls,
        RTCEventType.RTCEvent_Every = .RTCEvent_Every ∧ c.1 = e._callback := fun c hc => by
      rw [fire_calls now last htype, List.mem_singleton] at hc
      rw [hc]
      exact ⟨rfl, rfl⟩
    rw [htype] at hidle
    rw [if_pos (by rw [htype]; exact RTCEventType.noConfusion)] at h
    by_cases hdue : e.Due now
    · obtain ⟨last, rfl⟩ := update_of_due h hdue
      exact ⟨fire_callback now last, fun _ => rfl, hfire last⟩
    · rw [update_of_not_due h hdue]
      exact ⟨rfl, fun _ => rfl, hidle⟩

/-- No slot in use but the `i`-th has this callback. -/
def OwnCallback (callback : α) (i : ℕ) (es : List (RTCEvent α)) : Prop :=
  ∀ j e, es[j]? = some e → e._eventType = .RTCEvent_Every → e._callback = callback → j = i

/-- No slot takes over the callback of another one. -/
lemma OwnCallback.poll {callback : α} {i : ℕ} {now : UInt32} {es : List (RTCEvent α)}
    {us : List (Updated α)} (h : OwnCallback callback i es)
    (hus : List.Forall₂ (fun e u => RTCEvent.poll e now = some u) es us) :
    OwnCallback callback i (us.map Updated.event) := by
  intro j e' he' hlive hcallback
  rw [List.getElem?_map, Option.map_eq_some_iff] at he'
  obtain ⟨u, hu, rfl⟩ := he'
  obtain ⟨hj, rfl⟩ := List.getElem?_eq_some_iff.mp hu
  have hj' : j < es.length := by rwa [hus.length_eq]
  have hpoll := hus.get hj' hj
  obtain ⟨hsame, hkeep, -⟩ := poll_spec hpoll
  exact h j _ (List.getElem?_eq_getElem hj') (hkeep hlive) (hsame.symm.trans hcallback)

section
variable [DecidableEq α]

/-- The calls of one callback. -/
def callsOf (callback : α) (calls : List (α × UInt32)) : List (α × UInt32) :=
  calls.filter fun c => c.1 = callback

lemma callsOf_append (callback : α) (calls calls' : List (α × UInt32)) :
    callsOf callback (calls ++ calls') = callsOf callback calls ++ callsOf callback calls' :=
  List.filter_append ..

lemma callsOf_self {callback : α} {calls : List (α × UInt32)}
    (h : ∀ c ∈ calls, c.1 = callback) : callsOf callback calls = calls :=
  List.filter_eq_self.mpr fun c hc => decide_eq_true (h c hc)

lemma callsOf_other {callback : α} {calls : List (α × UInt32)}
    (h : ∀ c ∈ calls, c.1 ≠ callback) : callsOf callback calls = [] :=
  List.filter_eq_nil_iff.mpr fun c hc heq => h c hc (of_decide_eq_true heq)

/-- A callback that is in no slot in use is not called. -/
lemma callsOf_absent {now : UInt32} {callback : α} {es : List (RTCEvent α)}
    {us : List (Updated α)}
    (h : List.Forall₂ (fun e u => RTCEvent.poll e now = some u) es us)
    (hnot : ∀ e ∈ es, e._eventType = .RTCEvent_Every → e._callback ≠ callback) :
    callsOf callback (us.flatMap Updated.calls) = [] := by
  induction h with
  | nil => rfl
  | @cons e u es us hu _ ih =>
    rw [List.forall_mem_cons] at hnot
    rw [List.flatMap_cons, callsOf_append, ih hnot.2, List.append_nil]
    apply callsOf_other
    intro c hc
    obtain ⟨hlive, hc⟩ := (poll_spec hu).2.2 c hc
    rw [hc]
    exact hnot.1 hlive

/-- What an update does to a slot with a callback of its own. -/
lemma exists_poll {now : UInt32} {es : List (RTCEvent α)} {us : List (Updated α)}
    (h : List.Forall₂ (fun e u => RTCEvent.poll e now = some u) es us) {i : ℕ}
    {e : RTCEvent α} (hown : OwnCallback e._callback i es) (he : es[i]? = some e) :
    ∃ u, RTCEvent.poll e now = some u ∧ (us.map Updated.event)[i]? = some u.event ∧
      callsOf e._callback (us.flatMap Updated.calls) = u.calls := by
  induction h generalizing i with
  | nil => cases he
  | @cons e₀ u₀ es us hu hrest ih =>
    rw [List.flatMap_cons, callsOf_append]
    cases i with
    | zero =>
      cases he
      refine ⟨u₀, hu, rfl, ?_⟩
      rw [callsOf_self fun c hc => ((poll_spec hu).2.2 c hc).2, callsOf_absent hrest,
        List.append_nil]
      intro e' he' hlive hsame
      obtain ⟨j, hj⟩ := List.mem_iff_getElem?.mp he'
      exact Nat.succ_ne_zero j (hown (j + 1) e' hj hlive hsame)
    | succ i =>
      rw [List.getElem?_cons_succ] at he
      have hown' : OwnCallback e._callback i es := fun j e' hj hlive hsame =>
        Nat.succ_injective (hown (j + 1) e' hj hlive hsame)
      obtain ⟨u, hpoll, hevent, hcalls⟩ := ih hown' he
      refine ⟨u, hpoll, hevent, ?_⟩
      rw [hcalls, callsOf_other, List.nil_append]
      intro c hc hsame
      obtain ⟨hlive, hc⟩ := (poll_spec hu).2.2 c hc
      exact Nat.succ_ne_zero i (hown 0 e₀ rfl hlive (hc.symm.trans hsame)).symm

/-! ## On schedule -/

/-- When several events may act in one update, a slot with a callback of its own runs as if it
were alone. -/
lemma runs_filter {t t' : RTCTimer α} {ts : List ℕ} {calls : List (α × UInt32)}
    (hmode : t._noMultipleEvents = false) (hruns : t.runs ts = some (t', calls)) {i : ℕ}
    {e : RTCEvent α} (hown : OwnCallback e._callback i t._events) (he : t._events[i]? = some e) :
    ∃ e', t'._events[i]? = some e' ∧
      RTCEvent.runs e ts = some (e', callsOf e._callback calls) := by
  induction ts generalizing t e calls with
  | nil =>
    cases hruns
    exact ⟨e, he, rfl⟩
  | cons ms ts ih =>
    obtain ⟨⟨t₁, calls₁⟩, hupdate, hrest⟩ := Option.bind_eq_some_iff.mp hruns
    obtain ⟨⟨t₂, calls₂⟩, hruns₂, heq⟩ := Option.map_eq_some_iff.mp hrest
    cases heq
    obtain ⟨hloop, hmode₁⟩ := update_eq_some.mp hupdate
    rw [hmode] at hloop
    obtain ⟨us, hus, hevents, hcalls⟩ := updateFrom_false.mp hloop
    obtain ⟨u, hpoll, hu, hmine⟩ := exists_poll hus hown he
    have hsame := (poll_spec hpoll).1
    have hown₁ : OwnCallback u.event._callback i t₁._events := by
      rw [hsame, hevents]
      exact hown.poll hus
    obtain ⟨e', he', hruns'⟩ := ih (hmode₁.trans hmode) hruns₂ hown₁ (hevents ▸ hu)
    refine ⟨e', he', ?_⟩
    rw [RTCEvent.runs, hpoll, Option.bind_some, hruns', callsOf_append, hcalls, hmine, hsame]
    rfl

/-- A callback that is set up at the time `start` and polled at least once in every period is
called for the `k`-th time at the first poll at or after `k` periods, as often as its repeat
count allows, whatever the other slots do as long as they have periods: no call is lost, and
delays do not add up. A last time of 0 would count as never set. -/
theorem every_on_schedule {t : RTCTimer α} {start : ℕ} {period : UInt32} {callback : α}
    {repeatCount : ℤ} {ts : List ℕ} (hmode : t._noMultipleEvents = false)
    (hperiods : HavePeriods t._events)
    (hnew : ∀ e ∈ t._events, e._eventType = .RTCEvent_Every → e._callback ≠ callback)
    (hfree : (t.every (some (UInt32.ofNat start)) period callback repeatCount).1 ≠ -1)
    (hperiod : 0 < period.toNat ∧ period.toNat ≤ 2 ^ 31) (hts : Polls period.toNat start ts)
    (hzero : ∀ ms ∈ ts, ∀ k, start + period.toNat * k ≤ ms →
      (start + period.toNat * k) % 2 ^ 32 ≠ 0) :
    ∃ t' calls, (t.every (some (UInt32.ofNat start)) period callback repeatCount).2.runs ts =
        some (t', calls) ∧
      ∀ k : ℕ, (callsOf callback calls)[k]? =
        if repeatCount > 0 ∧ repeatCount ≤ k then none
        else (ts.find? fun ms => start + period.toNat * (k + 1) ≤ ms).map
          fun ms => (callback, UInt32.ofNat ms) := by
  obtain ⟨hfull, -⟩ | ⟨i, e₀, t₁, hevery, he₀, -, hevents, hmode₁⟩ :=
    t.every_cases (some (UInt32.ofNat start)) period callback repeatCount
  · rw [hfull] at hfree
    exact absurd rfl hfree
  · rw [hevery]
    generalize he : RTCEvent.mk .RTCEvent_Every ((some (UInt32.ofNat start)).getD 0) period 0
      repeatCount callback = e at hevents
    have hsetup : e.SetUp start := by
      rw [← he]
      exact ⟨rfl, hperiod, rfl, rfl⟩
    have hown : OwnCallback e._callback i t₁._events := by
      intro j e' hj hlive hsame
      by_contra hne
      rw [hevents, List.getElem?_set_ne (Ne.symm hne)] at hj
      rw [← he] at hsame
      exact hnew e' (List.mem_of_getElem? hj) hlive hsame
    have hslot : t₁._events[i]? = some e := by
      rw [hevents, List.getElem?_set_self (List.getElem?_eq_some_iff.mp he₀).1]
    have hperiods₁ : HavePeriods t₁._events := by
      intro e' he' hlive hp
      rw [hevents] at he'
      obtain hold | rfl := List.mem_or_eq_of_mem_set he'
      · exact hperiods e' hold hlive hp
      · rw [← he] at hp
        exact hperiod.1.ne' (congrArg UInt32.toNat hp)
    obtain ⟨t', calls, hruns⟩ := hperiods₁.runs ts
    obtain ⟨e', -, halone⟩ := runs_filter (hmode₁.trans hmode) hruns hown hslot
    have hp : e._period = period := by rw [← he]
    obtain ⟨e'', calls', hcalls, hschedule⟩ := calls_on_schedule hsetup (hp ▸ hts) (hp ▸ hzero)
    rw [halone] at hcalls
    cases hcalls
    refine ⟨t', calls, hruns, fun k => ?_⟩
    have hk := hschedule k
    rw [← he] at hk
    exact hk

/-- Two calls, five units apart: the second one at the third poll. -/
theorem every_on_schedule_twice :
    ∃ t' calls, ((initial false).every (some 100) 5 true 2).2.runs [103, 106, 111, 112] =
        some (t', calls) ∧
      (callsOf true calls)[1]? = some (true, 111) ∧ (callsOf true calls)[2]? = none := by
  have hperiods : HavePeriods (initial false)._events := by
    intro e he hlive
    rw [List.eq_of_mem_replicate he] at hlive
    exact absurd rfl hlive
  have hpolls : Polls (5 : UInt32).toNat 100 [103, 106, 111, 112] := by
    unfold Polls
    decide
  have hlate : ∀ ms ∈ [103, 106, 111, 112], ms ≤ 112 := by decide
  have hzero : ∀ ms ∈ [103, 106, 111, 112], ∀ k, 100 + (5 : UInt32).toNat * k ≤ ms →
      (100 + (5 : UInt32).toNat * k) % 2 ^ 32 ≠ 0 := by
    intro ms hms k hk
    have hle := hk.trans (hlate ms hms)
    omega
  have hfree : ((initial false).every (some (UInt32.ofNat 100)) 5 true 2).1 ≠ -1 := by decide
  obtain ⟨t', calls, hruns, hcall⟩ :=
    every_on_schedule rfl hperiods (by decide) hfree (by decide) hpolls hzero
  exact ⟨t', calls, hruns, hcall 1, hcall 2⟩

end

/-! ## One at a time -/

/-- A slot that was not initialised has a period that an update leaves behind. -/
def Settles (now : UInt32) (es : List (RTCEvent α)) : Prop :=
  ∀ e ∈ es, Waiting now e → e._lastEventTime = 0 →
    0 < e._period.toNat ∧ e._period.toNat ≤ 2 ^ 31

/-- An update of a slot leaves it waiting no longer. -/
lemma not_waiting {e : RTCEvent α} {es : List (RTCEvent α)} {now : UInt32} {u : Updated α}
    (hsettles : Settles now (e :: es)) (hwaiting : Waiting now e) (hu : e.update now = some u) :
    ¬ Waiting now u.event :=
  fun h => not_due_update hu hwaiting.2 (hsettles e List.mem_cons_self hwaiting) h.2

/-- Serving one slot and then all of them is serving all of them. -/
lemma updateFrom_true {now : UInt32} {es : List (RTCEvent α)} (hsettles : Settles now es) :
    updateFrom false now es = (updateFrom true now es).bind fun (es₁, calls₁) =>
      (updateFrom false now es₁).map fun (es, calls) => (es, calls₁ ++ calls) := by
  induction es with
  | nil => rfl
  | cons e es ih =>
    rw [updateFrom_cons, updateFrom_cons]
    by_cases hwaiting : Waiting now e
    · rw [if_pos hwaiting, if_pos hwaiting, Option.bind_assoc]
      refine Option.bind_congr fun u hu => ?_
      have hserved := not_waiting hsettles hwaiting hu
      rw [if_pos rfl, if_neg Bool.false_ne_true, Option.bind_some]
      dsimp only
      rw [updateFrom_cons, if_neg hserved, Option.map_map]
      rfl
    · rw [if_neg hwaiting, if_neg hwaiting, Option.bind_map,
        ih fun e he => hsettles e (List.mem_cons_of_mem _ he), Option.map_bind]
      refine Option.bind_congr fun r _ => ?_
      rw [Function.comp_apply, Function.comp_apply]
      dsimp only
      rw [updateFrom_cons, if_neg hwaiting, Option.map_map, Option.map_map]
      rfl

/-- Afterwards one slot less is waiting. -/
lemma countP_waiting {now : UInt32} {es es₁ : List (RTCEvent α)} {calls : List (α × UInt32)}
    (hsettles : Settles now es) (h : updateFrom true now es = some (es₁, calls)) :
    Settles now es₁ ∧ es₁.countP (Waiting now ·) = es.countP (Waiting now ·) - 1 := by
  induction es generalizing es₁ calls with
  | nil =>
    cases h
    exact ⟨hsettles, rfl⟩
  | cons e es ih =>
    have htail : Settles now es := fun e he => hsettles e (List.mem_cons_of_mem _ he)
    rw [updateFrom_cons] at h
    by_cases hwaiting : Waiting now e
    · rw [if_pos hwaiting] at h
      obtain ⟨u, hu, hes⟩ := Option.bind_eq_some_iff.mp h
      have hserved := not_waiting hsettles hwaiting hu
      cases hes
      constructor
      · exact List.forall_mem_cons.mpr ⟨fun h => absurd h hserved, htail⟩
      · rw [List.countP_cons_of_neg (by simpa using hserved),
          List.countP_cons_of_pos (by simpa using hwaiting), Nat.add_sub_cancel]
    · rw [if_neg hwaiting] at h
      obtain ⟨⟨es₂, calls₂⟩, hes, heq⟩ := Option.map_eq_some_iff.mp h
      cases heq
      obtain ⟨hsettles₂, hcount⟩ := ih htail hes
      constructor
      · exact List.forall_mem_cons.mpr ⟨fun h => absurd h hwaiting, hsettles₂⟩
      · rw [List.countP_cons_of_neg (by simpa using hwaiting),
          List.countP_cons_of_neg (by simpa using hwaiting), hcount]

/-- Nothing happens when no slot is waiting. -/
lemma updateFrom_idle (noMultipleEvents : Bool) {now : UInt32} {es : List (RTCEvent α)}
    (h : es.countP (Waiting now ·) = 0) : updateFrom noMultipleEvents now es = some (es, []) := by
  induction es with
  | nil => rfl
  | cons e es ih =>
    have hnone := List.countP_eq_zero.mp h
    rw [List.forall_mem_cons] at hnone
    rw [updateFrom_cons, if_neg (by simpa using hnone.1), ih (List.countP_eq_zero.mpr hnone.2)]
    rfl

/-- As many updates at one time as slots are waiting. -/
lemma map_runs_replicate {t : RTCTimer α} {ms n : ℕ} (hmode : t._noMultipleEvents = true)
    (hsettles : Settles (UInt32.ofNat ms) t._events)
    (hn : t._events.countP (Waiting (UInt32.ofNat ms) ·) ≤ n) :
    (t.runs (List.replicate n ms)).map (fun r => (r.1._events, r.2)) =
      updateFrom false (UInt32.ofNat ms) t._events := by
  induction n generalizing t with
  | zero =>
    rw [updateFrom_idle false (Nat.le_zero.mp hn)]
    rfl
  | succ n ih =>
    rw [List.replicate_succ, runs, updateFrom_true hsettles, Option.map_bind]
    cases hupdate : t.update (UInt32.ofNat ms) with
    | none =>
      have hnone : updateFrom true (UInt32.ofNat ms) t._events = none := by
        rw [← hmode]
        unfold update at hupdate
        split at hupdate
        · assumption
        · cases hupdate
      rw [hnone]
      rfl
    | some r =>
      obtain ⟨hloop, hmode₁⟩ := update_eq_some.mp hupdate
      rw [hmode] at hloop
      obtain ⟨hsettles₁, hcount⟩ := countP_waiting hsettles hloop
      rw [hloop, Option.bind_some, Option.bind_some, Function.comp_apply]
      dsimp only
      rw [← ih (hmode₁.trans hmode) hsettles₁ (by omega), Option.map_map, Option.map_map]
      rfl

end RTCTimer

end ArduinoProjects
