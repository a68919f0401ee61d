import ArduinoProjects.RTCTimer.Reentrant

/-!
# Adjusting the clock

When a sketch sets its clock from `old` to `now`, it tells the scheduler with `adjust`. The
callbacks are then called as if the clock had not been set, at times that are `now - old` later
(`runs_adjust`). The scheduler takes a last time of 0 for one that was never set, so 0 may not
turn up on either clock. The clock may also be set by a callback; the update that called it goes
on with the old time, so it may serve no slot behind that one.
-/

namespace ArduinoProjects

open RTCEvent

variable {α : Type*}

namespace RTCEvent

/-- A slot on a clock that is `d` ahead. -/
def shift (d : UInt32) (e : RTCEvent α) : RTCEvent α :=
  { e with _lastEventTime := e._lastEventTime + d }

/-- A call, on the clock that was set. -/
def shiftCall (d : UInt32) (c : α × UInt32) : α × UInt32 := (c.1, c.2 + d)

lemma sub_shift (now last period d : UInt32) :
    now + d - (last + d + period) = now - (last + period) := by
  grind

lemma skip_shift (now period d : UInt32) (fuel : ℕ) (last : UInt32) :
    skip (now + d) period fuel (last + d) = (skip now period fuel last).map (· + d) := by
  induction fuel generalizing last with
  | zero => rfl
  | succ fuel ih =>
    have hnext : last + d + period = last + period + d := by grind
    rw [skip, skip, sub_shift]
    split
    · rw [hnext, ih]
    · rfl

lemma due_shift (e : RTCEvent α) (now d : UInt32) : (e.shift d).Due (now + d) ↔ e.Due now := by
  rw [Due, Due, shift, sub_shift]

lemma fire_shift (e : RTCEvent α) (now last d : UInt32) :
    (e.shift d).fire (now + d) (last + d) =
      ⟨(e.fire now last).event.shift d, true, (e.fire now last).calls.map (shiftCall d)⟩ := by
  unfold fire shift
  dsimp only
  split <;> cases e._eventType <;> rfl

/-- An update on the clock that was set, of a slot that counts as initialised on both. -/
lemma update_shift {e : RTCEvent α} {now d : UInt32} {u : Updated α}
    (hlast : e._lastEventTime ≠ 0) (hshift : (e.shift d)._lastEventTime ≠ 0)
    (h : e.update now = some u) :
    (e.shift d).update (now + d) =
      some ⟨u.event.shift d, u.doneEvent, u.calls.map (shiftCall d)⟩ := by
  unfold update at h ⊢
  simp only [due_shift]
  by_cases hdue : e.Due now
  · rw [if_pos hdue, if_neg hlast] at h
    obtain ⟨last, hskip, rfl⟩ := Option.map_eq_some_iff.mp h
    have hskip' : skip (now + d) (e.shift d)._period (2 ^ 32) (e.shift d)._lastEventTime =
        some (last + d) := by
      rw [shift, skip_shift, hskip]
      rfl
    rw [if_pos hdue, if_neg hshift, hskip', Option.map_some, fire_shift]
    rfl
  · rw [if_neg hdue] at h ⊢
    cases h
    rfl

end RTCEvent

namespace RTCTimer

/-- The same slot on the clock that was set; what is in a free slot does not matter. -/
structure Shifted (d : UInt32) (e e' : RTCEvent α) : Prop where
  type : e'._eventType = e._eventType
  live : e._eventType ≠ .RTCEvent_None → e' = e.shift d

lemma shifted_self (d : UInt32) (e : RTCEvent α) : Shifted d e (e.shift d) := ⟨rfl, fun _ => rfl⟩

/-- No slot in use has a last time of 0 on either clock. -/
def Initialised (d : UInt32) (es : List (RTCEvent α)) : Prop :=
  ∀ e ∈ es, e._eventType ≠ .RTCEvent_None → e._lastEventTime ≠ 0 ∧ e._lastEventTime + d ≠ 0

instance (d : UInt32) (es : List (RTCEvent α)) : Decidable (Initialised d es) :=
  inferInstanceAs (Decidable (∀ e ∈ es, _ → _))

/-- The same before and after every update at certain times. -/
def StaysInitialised (d : UInt32) (t : RTCTimer α) : List ℕ → Prop
  | [] => Initialised d t._events
  | ms :: ts => Initialised d t._events ∧
      ∀ r ∈ t.update (UInt32.ofNat ms), StaysInitialised d r.1 ts

instance decidableStaysInitialised (d : UInt32) (t : RTCTimer α) :
    (ts : List ℕ) → Decidable (StaysInitialised d t ts)
  | [] => inferInstanceAs (Decidable (Initialised d t._events))
  | ms :: ts =>
    have (r : RTCTimer α × List (α × UInt32)) : Decidable (StaysInitialised d r.1 ts) :=
      decidableStaysInitialised d r.1 ts
    inferInstanceAs (Decidable (_ ∧ ∀ r ∈ t.update (UInt32.ofNat ms), _))

lemma waiting_shift {d now : UInt32} {e e' : RTCEvent α} (h : Shifted d e e') :
    Waiting (now + d) e' ↔ Waiting now e := by
  unfold Waiting
  rw [h.type]
  exact and_congr_right fun hlive => by rw [h.live hlive, due_shift]

/-- One update, on both clocks. -/
lemma updateFrom_shift {d now : UInt32} {noMultipleEvents : Bool} {es es' r : List (RTCEvent α)}
    {calls : List (α × UInt32)} (h : List.Forall₂ (Shifted d) es es') (hinit : Initialised d es)
    (hupdate : updateFrom noMultipleEvents now es = some (r, calls)) :
    ∃ r', updateFrom noMultipleEvents (now + d) es' = some (r', calls.map (shiftCall d)) ∧
      List.Forall₂ (Shifted d) r r' := by
  induction h generalizing r calls with
  | nil =>
    cases hupdate
    exact ⟨[], rfl, .nil⟩
  | @cons e e' es es' hshifted hrest ih =>
    have htail : Initialised d es := fun e he => hinit e (List.mem_cons_of_mem _ he)
    rw [updateFrom_cons] at hupdate
    rw [updateFrom_cons]
    simp only [waiting_shift hshifted]
    by_cases hwaiting : Waiting now e
    · obtain ⟨hlast, hlast'⟩ := hinit e List.mem_cons_self hwaiting.1
      rw [if_pos hwaiting] at hupdate ⊢
      obtain ⟨u, hu, hes⟩ := Option.bind_eq_some_iff.mp hupdate
      rw [hshifted.live hwaiting.1, update_shift hlast hlast' hu, Option.bind_some]
      split at hes
      · next hone =>
        cases hes
        exact ⟨_, if_pos hone, .cons (shifted_self d _) hrest⟩
      · next hmany =>
        obtain ⟨⟨r₁, calls₁⟩, hloop, heq⟩ := Option.map_eq_some_iff.mp hes
        cases heq
        obtain ⟨r', hloop', hr'⟩ := ih htail hloop
        rw [if_neg hmany, hloop', List.map_append]
        exact ⟨_, rfl, .cons (shifted_self d _) hr'⟩
    · rw [if_neg hwaiting] at hupdate ⊢
      obtain ⟨⟨r₁, calls₁⟩, hloop, heq⟩ := Option.map_eq_some_iff.mp hupdate
      cases heq
      obtain ⟨r', hloop', hr'⟩ := ih htail hloop
      rw [hloop']
      exact ⟨_, rfl, .cons hshifted hr'⟩

/-- Updates at certain times, on both clocks. -/
lemma runs_shift {d : UInt32} {t s t' : RTCTimer α} {ts : List ℕ} {calls : List (α × UInt32)}
    (hmode : s._noMultipleEvents = t._noMultipleEvents)
    (h : List.Forall₂ (Shifted d) t._events s._events) (hinit : StaysInitialised d t ts)
    (hruns : t.runs ts = some (t', calls)) :
    ∃ s', s.runs (ts.map (· + d.toNat)) = some (s', calls.map (shiftCall d)) ∧
      List.Forall₂ (Shifted d) t'._events s'._events := by
  induction ts generalizing t s calls with
  | nil =>
    cases hruns
    exact ⟨s, rfl, h⟩
  | cons ms ts ih =>
    obtain ⟨⟨t₁, calls₁⟩, hupdate, hrest⟩ := Option.bind_eq_some_iff.mp hruns
    obtain ⟨⟨t₂, calls₂⟩, hruns₂, heq⟩ := Option.map_eq_some_iff.mp hrest
    cases heq
    obtain ⟨hloop, hmode₁⟩ := update_eq_some.mp hupdate
    obtain ⟨es, hloop', hes⟩ := updateFrom_shift h hinit.1 hloop
    have hsize : es.length = MAX_NUMBER_OF_RTCEVENTS := hes.length_eq.symm.trans t₁.size
    have hupdate' : s.update (UInt32.ofNat (ms + d.toNat)) =
        some (⟨es, hsize, s._noMultipleEvents⟩, calls₁.map (shiftCall d)) := by
      rw [UInt32.ofNat_add, UInt32.ofNat_toNat, update_eq_some, hmode]
      exact ⟨hloop', rfl⟩
    obtain ⟨s', hruns', hs'⟩ := ih (s := ⟨es, hsize, s._noMultipleEvents⟩)
      (hmode.trans hmode₁.symm) hes (hinit.2 _ hupdate) hruns₂
    refine ⟨s', ?_, hs'⟩
    rw [List.map_cons, runs, hupdate', Option.bind_some]
    dsimp only
    rw [hruns', List.map_append]
    rfl

/-- The slots are initialised at the beginning. -/
lemma StaysInitialised.initialised {d : UInt32} {t : RTCTimer α} {ts : List ℕ}
    (h : StaysInitialised d t ts) : Initialised d t._events := by
  cases ts with
  | nil => exact h
  | cons ms ts => exact h.1

/-- What `adjust` does to the slots. -/
lemma adjust_events {t : RTCTimer α} {old : UInt32} (hold : old ≠ 0) (now : UInt32) :
    (t.adjust old now)._events = t._events.map (adjustEvent now (now - old).toInt32) := by
  unfold adjust
  rw [if_neg hold]

lemma adjust_mode {t : RTCTimer α} {old : UInt32} (hold : old ≠ 0) (now : UInt32) :
    (t.adjust old now)._noMultipleEvents = t._noMultipleEvents := by
  unfold adjust
  rw [if_neg hold]

lemma adjustEvent_eq_shift {now d : UInt32} {e : RTCEvent α}
    (hlive : e._eventType ≠ .RTCEvent_None) (hlast : e._lastEventTime ≠ 0) :
    adjustEvent now d.toInt32 e = e.shift d := by
  unfold adjustEvent
  rw [if_pos hlive, if_neg hlast, UInt32.toUInt32_toInt32]
  rfl

/-- No slot is freed. -/
lemma adjustEvent_type (now : UInt32) (diff : Int32) (e : RTCEvent α) :
    (adjustEvent now diff e)._eventType = e._eventType := by
  unfold adjustEvent
  split
  · split <;> rfl
  · rfl

/-- `adjust` shifts the slots that are initialised. -/
lemma forall₂_shifted {now d : UInt32} {es : List (RTCEvent α)} (hinit : Initialised d es) :
    List.Forall₂ (Shifted d) es (es.map (adjustEvent now d.toInt32)) := by
  rw [List.forall₂_map_right_iff, List.forall₂_same]
  exact fun e he =>
    ⟨adjustEvent_type now _ e, fun hlive => adjustEvent_eq_shift hlive (hinit e he hlive).1⟩

/-! ## Setting the clock from inside a callback -/

/-- The callback `sync` finds the clock at `old`, sets it to `now` and adjusts the scheduler; the
other callbacks leave the scheduler alone. -/
def setsClock [DecidableEq α] (sync : α) (old now : UInt32) : Effect α := fun callback _ t =>
  if callback = sync then t.adjust old now else t

/-- An update at `ms` calls `sync`, and serves no slot after it, on either clock. -/
def ServedLast [DecidableEq α] (sync : α) (d ms : UInt32) (noMultipleEvents : Bool) :
    List (RTCEvent α) → Prop
  | [] => False
  | e :: es =>
    if Waiting ms e then
      if e._callback = sync then
        noMultipleEvents = true ∨ ∀ e ∈ es, ¬ Waiting ms e ∧ ¬ Waiting ms (e.shift d)
      else noMultipleEvents = false ∧ ServedLast sync d ms noMultipleEvents es
    else ServedLast sync d ms noMultipleEvents es

instance decidableServedLast [DecidableEq α] (sync : α) (d ms : UInt32)
    (noMultipleEvents : Bool) :
    (es : List (RTCEvent α)) → Decidable (ServedLast sync d ms noMultipleEvents es)
  | [] => inferInstanceAs (Decidable False)
  | e :: es =>
    have := decidableServedLast sync d ms noMultipleEvents es
    inferInstanceAs (Decidable (if Waiting ms e then
      if e._callback = sync then
        noMultipleEvents = true ∨ ∀ e ∈ es, ¬ Waiting ms e ∧ ¬ Waiting ms (e.shift d)
      else noMultipleEvents = false ∧ ServedLast sync d ms noMultipleEvents es
    else ServedLast sync d ms noMultipleEvents es))

/-- A slot that is adjusted while its callback runs, when the call has been counted. -/
lemma shifted_counted {now d : UInt32} {e : RTCEvent α}
    (hlive : e._eventType ≠ .RTCEvent_None)
    (hinit : e.counted._eventType ≠ .RTCEvent_None → e._lastEventTime ≠ 0) :
    Shifted d e.counted (adjustEvent now d.toInt32 e).counted := by
  by_cases hlast : e._lastEventTime = 0
  · have hdone : ¬ e.counted._eventType ≠ .RTCEvent_None := fun h => hinit h hlast
    refine ⟨?_, fun h => absurd h hdone⟩
    unfold adjustEvent RTCEvent.counted
    rw [if_pos hlive, if_pos hlast]
    split <;> rfl
  · rw [adjustEvent_eq_shift hlive hlast]
    unfold RTCEvent.counted RTCEvent.shift
    dsimp only
    split <;> exact ⟨rfl, fun _ => rfl⟩

/-- The slots behind the one that was adjusted for are not due. -/
lemma not_waiting_adjusted (now : UInt32) {d ms : UInt32} {es : List (RTCEvent α)}
    (hinit : Initialised d es)
    (hidle : ∀ e ∈ es, ¬ Waiting ms e ∧ ¬ Waiting ms (e.shift d)) :
    ∀ e ∈ es.map (adjustEvent now d.toInt32), ¬ Waiting ms e := by
  intro e' he' hwaiting
  obtain ⟨e, he, rfl⟩ := List.mem_map.mp he'
  have hlive : e._eventType ≠ .RTCEvent_None := adjustEvent_type now _ e ▸ hwaiting.1
  rw [adjustEvent_eq_shift hlive (hinit e he hlive).1] at hwaiting
  exact (hidle e he).2 hwaiting

section
variable [DecidableEq α] {sync : α} {old now ms : UInt32} {t : RTCTimer α}
  {front es : List (RTCEvent α)} {e : RTCEvent α}

variable (now) in
/-- The turn that calls `sync`. -/
lemma turn_setsClock {last : UInt32} (hold : old ≠ 0) (ht : t._events = front ++ e :: es)
    (hwaiting : Waiting ms e) (hsync : e._callback = sync) (hlast : e.foundTime ms = some last) :
    ∃ s, turn (setsClock sync old now) ms t front.length =
        some (s, true, (e.fire ms last).calls) ∧
      s._events = front.map (adjustEvent now (now - old).toInt32) ++
        (adjustEvent now (now - old).toInt32 { e with _lastEventTime := last }).counted ::
          es.map (adjustEvent now (now - old).toInt32) ∧
      s._noMultipleEvents = t._noMultipleEvents := by
  rw [turn_of_waiting ht hwaiting, hlast, Option.map_some, setsClock, if_pos hsync,
    fire_calls_of_live ms last hwaiting.1]
  refine ⟨_, rfl, ?_, adjust_mode hold now⟩
  rw [modifyEvent_events, adjust_events hold, modifyEvent_events, ht, modify_append,
    List.map_append, List.map_cons]
  have hlength : front.length = (front.map (adjustEvent now (now - old).toInt32)).length :=
    (List.length_map _).symm
  rw [hlength]
  exact modify_append _

/-- The loop from the slot on that calls `sync`, which is the last one served. -/
lemma loop_of_sync {last : UInt32} (hold : old ≠ 0) (ht : t._events = front ++ e :: es)
    (hwaiting : Waiting ms e) (hsync : e._callback = sync) (hlast : e.foundTime ms = some last)
    (hbehind : t._noMultipleEvents = true ∨
      ∀ e ∈ es, ¬ Waiting ms e ∧ ¬ Waiting ms (e.shift (now - old)))
    (hinit : Initialised (now - old) (front ++ (e.fire ms last).event :: es)) :
    ∃ s, loop (setsClock sync old now) ms (List.range' front.length (e :: es).length) t =
        some (s, (e.fire ms last).calls) ∧
      s._noMultipleEvents = t._noMultipleEvents ∧
      List.Forall₂ (Shifted (now - old)) (front ++ (e.fire ms last).event :: es) s._events := by
  obtain ⟨hfront, hrest⟩ := List.forall_mem_append.mp hinit
  obtain ⟨hmine, hes⟩ := List.forall_mem_cons.mp hrest
  obtain ⟨s, hturn, hs, hmode⟩ := turn_setsClock now hold ht hwaiting hsync hlast
  refine ⟨s, ?_, hmode, ?_⟩
  · rw [List.append_cons] at hs
    have hnext (e' : RTCEvent α) :
        (front.map (adjustEvent now (now - old).toInt32) ++ [e']).length = front.length + 1 := by
      rw [length_concat, List.length_map]
    rw [loop_of_turn hturn (hnext _), hmode]
    split
    · rfl
    · next hmany =>
      have hidle := not_waiting_adjusted now hes (hbehind.resolve_left hmany)
      have hloop := loop_idle (setsClock sync old now) hs hidle
      rw [List.length_map] at hloop
      rw [hloop, Option.map_some]
      exact congrArg (fun calls => some (s, calls)) (List.append_nil _)
  · rw [hs]
    refine List.rel_append (forall₂_shifted hfront) (.cons ?_ (forall₂_shifted hes))
    rw [fire_event]
    refine shifted_counted hwaiting.1 fun hlive => ?_
    have hlast' := (hmine hlive).1
    rwa [fire_lastEventTime] at hlast'

/-- The loop over the rest of the table, with `sync` called last. -/
lemma loop_setsClock {r : List (RTCEvent α)} {calls : List (α × UInt32)} (hold : old ≠ 0)
    (ht : t._events = front ++ es)
    (hserved : ServedLast sync (now - old) ms t._noMultipleEvents es)
    (hupdate : updateFrom t._noMultipleEvents ms es = some (r, calls))
    (hinit : Initialised (now - old) (front ++ r)) :
    ∃ s, loop (setsClock sync old now) ms (List.range' front.length es.length) t =
        some (s, calls) ∧
      s._noMultipleEvents = t._noMultipleEvents ∧
      List.Forall₂ (Shifted (now - old)) (front ++ r) s._events := by
  induction es generalizing front t r calls with
  | nil => exact hserved.elim
  | cons e es ih =>
    rw [updateFrom_cons] at hupdate
    rw [ServedLast] at hserved
    by_cases hwaiting : Waiting ms e
    · rw [if_pos hwaiting] at hupdate hserved
      obtain ⟨u, hu, hrest⟩ := Option.bind_eq_some_iff.mp hupdate
      rw [update_eq_foundTime hwaiting.2] at hu
      obtain ⟨last, hlast, rfl⟩ := Option.map_eq_some_iff.mp hu
      by_cases hsync : e._callback = sync
      · rw [if_pos hsync] at hserved
        have hr : r = (e.fire ms last).event :: es ∧ calls = (e.fire ms last).calls := by
          split at hrest
          · cases hrest
            exact ⟨rfl, rfl⟩
          · next hmany =>
            have hnone : es.countP (Waiting ms ·) = 0 := List.countP_eq_zero.mpr fun e he =>
              by simpa using ((hserved.resolve_left hmany) e he).1
            rw [updateFrom_idle _ hnone] at hrest
            cases hrest
            exact ⟨rfl, List.append_nil _⟩
        obtain ⟨rfl, rfl⟩ := hr
        exact loop_of_sync hold ht hwaiting hsync hlast hserved hinit
      · rw [if_neg hsync] at hserved
        obtain ⟨hmany, hserved⟩ := hserved
        rw [if_neg (by rw [hmany]; exact Bool.false_ne_true)] at hrest
        obtain ⟨⟨r₁, calls₁⟩, hes, heq⟩ := Option.map_eq_some_iff.mp hrest
        cases heq
        obtain ⟨s₁, hturn, hs₁, hmode₁⟩ := turn_inert (setsClock sync old now) ht hwaiting
          (fun _ => if_neg hsync) hlast
        rw [← hmode₁] at hserved hes
        rw [List.append_cons] at hinit hs₁
        obtain ⟨s, hloop, hmode, hs⟩ := ih hs₁ hserved hes hinit
        refine ⟨s, ?_, hmode.trans hmode₁, by rwa [List.append_cons]⟩
        rw [loop_of_turn hturn (length_concat front (e.fire ms last).event), hmode₁, hmany,
          if_neg Bool.false_ne_true, hloop, Option.map_some]
    · rw [if_neg hwaiting] at hupdate hserved
      obtain ⟨⟨r₁, calls₁⟩, hes, heq⟩ := Option.map_eq_some_iff.mp hupdate
      cases heq
      rw [List.append_cons] at hinit
      obtain ⟨s, hloop, hmode, hs⟩ := ih (ht.trans (List.append_cons ..)) hserved hes hinit
      refine ⟨s, ?_, hmode, by rwa [List.append_cons]⟩
      rw [loop_of_not_waiting ht hwaiting (length_concat front e), hloop]

end

/-- An update in which `sync` sets the clock, served last. -/
lemma updateWith_setsClock [DecidableEq α] {sync : α} {old now ms : UInt32} {t₀ t : RTCTimer α}
    {calls : List (α × UInt32)} (hold : old ≠ 0)
    (hserved : ServedLast sync (now - old) ms t₀._noMultipleEvents t₀._events)
    (hupdate : t₀.update ms = some (t, calls)) (hinit : Initialised (now - old) t._events) :
    ∃ s, t₀.updateWith (setsClock sync old now) ms = some (s, calls) ∧
      s._noMultipleEvents = t._noMultipleEvents ∧
      List.Forall₂ (Shifted (now - old)) t._events s._events := by
  obtain ⟨hloop, hmode⟩ := update_eq_some.mp hupdate
  obtain ⟨s, hs, hmode', hshifted⟩ :=
    loop_setsClock hold (show t₀._events = [] ++ t₀._events from rfl) hserved hloop hinit
  rw [List.length_nil, t₀.size, ← List.range_eq_range'] at hs
  exact ⟨s, hs, hmode'.trans hmode.symm, hshifted⟩

/-- After the clock is set from `old` to `now` and the scheduler adjusted, the same callbacks are
called as if neither had happened, at times that are later by the same amount. The clock is set
between two updates, or by a callback `sync` in the update that led to `t`. -/
theorem runs_adjust [DecidableEq α] {t t' : RTCTimer α} {old now : UInt32} {ts : List ℕ}
    {calls : List (α × UInt32)} (hold : old ≠ 0) (hinit : StaysInitialised (now - old) t ts)
    (hruns : t.runs ts = some (t', calls)) :
    (∃ s', (t.adjust old now).runs (ts.map (· + (now - old).toNat)) =
        some (s', calls.map fun c => (c.1, c.2 + (now - old))) ∧
      List.Forall₂ (Shifted (now - old)) t'._events s'._events) ∧
    ∀ (t₀ : RTCTimer α) (sync : α) (ms : UInt32) (calls₀ : List (α × UInt32)),
      t₀.update ms = some (t, calls₀) →
      ServedLast sync (now - old) ms t₀._noMultipleEvents t₀._events →
      ∃ s s', t₀.updateWith (setsClock sync old now) ms = some (s, calls₀) ∧
        s.runs (ts.map (· + (now - old).toNat)) =
          some (s', calls.map fun c => (c.1, c.2 + (now - old))) ∧
        List.Forall₂ (Shifted (now - old)) t'._events s'._events := by
  constructor
  · refine runs_shift (adjust_mode hold now) ?_ hinit hruns
    rw [adjust_events hold]
    exact forall₂_shifted hinit.initialised
  · intro t₀ sync ms calls₀ hupdate hserved
    obtain ⟨s, hs, hmode, hshifted⟩ :=
      updateWith_setsClock hold hserved hupdate hinit.initialised
    obtain ⟨s', hruns', hs'⟩ := runs_shift hmode hshifted hinit hruns
    exact ⟨s, s', hs, hruns', hs'⟩

/-- A callback that is due once a day and was set up before the scheduler knew the time. The clock
is set on by a minute in its first call, or after it; the second call comes a day later. -/
theorem runs_adjust_daily :
    let t₀ := ((initial 0).every none 86400 1 (-1)).2
    let d : UInt32 := 1467331264 - 1467331204
    ∃ t t' calls, t₀.update 1467331200 = some (t, [(1, 1467331200)]) ∧
      t.runs [1467417599, 1467417600] = some (t', calls) ∧
      (∃ s', (t.adjust 1467331204 1467331264).runs
          ([1467417599, 1467417600].map (· + d.toNat)) =
            some (s', calls.map fun c => (c.1, c.2 + d))) ∧
      ∃ s s', t₀.updateWith (setsClock 1 1467331204 1467331264) 1467331200 =
          some (s, [(1, 1467331200)]) ∧
        s.runs ([1467417599, 1467417600].map (· + d.toNat)) =
          some (s', calls.map fun c => (c.1, c.2 + d)) := by
  intro t₀ d
  obtain ⟨⟨t, calls₀⟩, hupdate⟩ := Option.isSome_iff_exists.mp
    (show (t₀.update 1467331200).isSome from by decide +kernel)
  have hafter : ∀ r ∈ t₀.update 1467331200, r.2 = [(1, 1467331200)] ∧
      StaysInitialised d r.1 [1467417599, 1467417600] ∧
      (r.1.runs [1467417599, 1467417600]).isSome := by decide +kernel
  have hserved : ServedLast 1 d 1467331200 t₀._noMultipleEvents t₀._events := by decide +kernel
  obtain ⟨rfl, hinit, hends⟩ := hafter _ hupdate
  obtain ⟨⟨t', calls⟩, hruns⟩ := Option.isSome_iff_exists.mp hends
  obtain ⟨⟨s₁, hbetween, -⟩, hinside⟩ := runs_adjust (by decide) hinit hruns
  obtain ⟨s, s', hs, hruns', -⟩ := hinside t₀ 1 _ _ hupdate hserved
  exact ⟨t, t', calls, hupdate, hruns, ⟨s₁, hbetween⟩, s, s', hs, hruns'⟩

/-- A slot behind the callback that sets the clock back is called too early. -/
example :
    let t := ((((initial 0).every (some 100) 10 1 (-1)).2).every (some 90) 60 2 (-1)).2
    (t.update 110).map Prod.snd = some [(1, 110)] ∧
      (t.updateWith (setsClock 1 110 60) 110).map Prod.snd = some [(1, 110), (2, 110)] := by
  decide +kernel

end RTCTimer

end ArduinoProjects
