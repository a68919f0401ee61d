import ArduinoProjects.RTCTimer.Timer

/-!
# Callbacks that act on the scheduler

A callback is called from the middle of the loop of `update`, and it may set up slots or adjust
the scheduler there. Here the loop goes over the table by index, and what a callback does to the
scheduler is a parameter. With callbacks that leave the scheduler alone this is `update`
(`updateWith_inert`).
-/

namespace ArduinoProjects

open RTCEvent

variable {α : Type*}

namespace RTCEvent

/-- The last time that an update finds for a slot that is due. -/
def foundTime (e : RTCEvent α) (now : UInt32) : Option UInt32 :=
  if e._lastEventTime = 0 then some now else skip now e._period (2 ^ 32) e._lastEventTime

/-- What an update does when the callback has returned. -/
def counted (e : RTCEvent α) : RTCEvent α :=
  if e._repeatCount > 0 then
    { e with
      _count := e._count + 1
      -- done, free the event
      _eventType := if e._count + 1 ≥ e._repeatCount then .RTCEvent_None else e._eventType }
  else e

/-- An update of a slot that is due finds the last time and fires. -/
lemma update_eq_foundTime {e : RTCEvent α} {now : UInt32} (hdue : e.Due now) :
    e.update now = (e.foundTime now).map (e.fire now) := by
  rw [update, if_pos hdue, foundTime]
  split <;> rfl

lemma fire_event (e : RTCEvent α) (now last : UInt32) :
    (e.fire now last).event = RTCEvent.counted { e with _lastEventTime := last } := rfl

lemma fire_calls_of_live {e : RTCEvent α} (now last : UInt32)
    (hlive : e._eventType ≠ .RTCEvent_None) : (e.fire now last).calls = [(e._callback, now)] := by
  refine fire_calls now last ?_
  cases htype : e._eventType with
  | RTCEvent_None => exact absurd htype hlive
  | RTCEvent_Every => rfl

end RTCEvent

namespace RTCTimer

/-- An assignment to fields of the slot `i`. -/
def modifyEvent (t : RTCTimer α) (i : ℕ) (f : RTCEvent α → RTCEvent α) : RTCTimer α :=
  { t with _events := t._events.modify i f, size := (List.length_modify f _ i).trans t.size }

lemma modifyEvent_events (t : RTCTimer α) (i : ℕ) (f : RTCEvent α → RTCEvent α) :
    (t.modifyEvent i f)._events = t._events.modify i f := rfl

/-- What the callbacks do to the scheduler that calls them, by the time they are called with. -/
abbrev Effect (α : Type*) := α → UInt32 → RTCTimer α → RTCTimer α

/-- One turn of the loop of `update(now)`: the scheduler, whether the event was done, the call. -/
def turn (act : Effect α) (now : UInt32) (t : RTCTimer α) (i : ℕ) :
    Option (RTCTimer α × Bool × List (α × UInt32)) :=
  match t._events[i]? with
  | none => some (t, false, [])
  | some e =>
    if Waiting now e then
      (e.foundTime now).map fun last =>
        let t := t.modifyEvent i fun e => { e with _lastEventTime := last }
        let t := act e._callback now t
        -- the callback may have changed the slot it was called for
        (t.modifyEvent i RTCEvent.counted, true, [(e._callback, now)])
    else some (t, false, [])

/-- The loop of `update(now)` from some index on. -/
def loop (act : Effect α) (now : UInt32) :
    List ℕ → RTCTimer α → Option (RTCTimer α × List (α × UInt32))
  | [], t => some (t, [])
  | i :: is, t => (turn act now t i).bind fun (t, doneEvent, calls) =>
      -- only one event action per update
      if doneEvent ∧ t._noMultipleEvents then some (t, calls)
      else (loop act now is t).map fun (t, calls') => (t, calls ++ calls')

/-- `update(now)` with callbacks that act on the scheduler. -/
def updateWith (act : Effect α) (t : RTCTimer α) (now : UInt32) :
    Option (RTCTimer α × List (α × UInt32)) :=
  loop act now (List.range MAX_NUMBER_OF_RTCEVENTS) t

section
variable {act : Effect α} {now : UInt32} {t : RTCTimer α} {front es : List (RTCEvent α)}
  {e : RTCEvent α}

/-- A slot that is not due is passed over. -/
lemma turn_of_not_waiting (ht : t._events = front ++ e :: es) (hwaiting : ¬ Waiting now e) :
    turn act now t front.length = some (t, false, []) := by
  rw [turn, ht, List.getElem?_append_right le_rfl, Nat.sub_self, List.getElem?_cons_zero]
  exact if_neg hwaiting

/-- A slot that is due moves its last time on, calls its callback, and counts the call. -/
lemma turn_of_waiting (ht : t._events = front ++ e :: es) (hwaiting : Waiting now e) :
    turn act now t front.length = (e.foundTime now).map fun last =>
      ((act e._callback now
          (t.modifyEvent front.length fun e => { e with _lastEventTime := last })).modifyEvent
        front.length RTCEvent.counted, true, [(e._callback, now)]) := by
  rw [turn, ht, List.getElem?_append_right le_rfl, Nat.sub_self, List.getElem?_cons_zero]
  exact if_pos hwaiting

lemma modify_append (f : RTCEvent α → RTCEvent α) :
    (front ++ e :: es).modify front.length f = front ++ f e :: es := by
  induction front with
  | nil => rfl
  | cons b front ih =>
    rw [List.cons_append, List.length_cons, List.modify_succ_cons, ih]
    rfl

/-- The loop passes over a slot that is not due. -/
lemma loop_of_not_waiting {n : ℕ} (ht : t._events = front ++ e :: es) (hwaiting : ¬ Waiting now e)
    (hn : n = front.length + 1) :
    loop act now (List.range' front.length (e :: es).length) t =
      loop act now (List.range' n es.length) t := by
  rw [List.length_cons, List.range'_succ, loop, turn_of_not_waiting ht hwaiting, Option.bind_some,
    hn]
  dsimp only
  rw [if_neg fun h => Bool.false_ne_true h.1]
  exact Option.map_id'

/-- The loop ends behind a slot that was served, or goes on. -/
lemma loop_of_turn {s : RTCTimer α} {calls : List (α × UInt32)} {n : ℕ}
    (hturn : turn act now t front.length = some (s, true, calls)) (hn : n = front.length + 1) :
    loop act now (List.range' front.length (e :: es).length) t =
      if s._noMultipleEvents then some (s, calls)
      else (loop act now (List.range' n es.length) s).map fun (t, calls') =>
        (t, calls ++ calls') := by
  rw [List.length_cons, List.range'_succ, loop, hturn, Option.bind_some, hn]
  simp only [true_and]

lemma length_concat (front : List (RTCEvent α)) (e : RTCEvent α) :
    (front ++ [e]).length = front.length + 1 := by
  rw [List.length_append, List.length_singleton]

variable (act)

/-- Nothing happens behind the last slot that is due. -/
lemma loop_idle (ht : t._events = front ++ es) (hidle : ∀ e ∈ es, ¬ Waiting now e) :
    loop act now (List.range' front.length es.length) t = some (t, []) := by
  induction es generalizing front with
  | nil => rfl
  | cons e es ih =>
    rw [List.forall_mem_cons] at hidle
    rw [loop_of_not_waiting ht hidle.1 (length_concat front e)]
    exact ih (ht.trans (List.append_cons ..)) hidle.2

/-- A turn for a slot that is due and whose callback leaves the scheduler alone. -/
lemma turn_inert {last : UInt32} (ht : t._events = front ++ e :: es) (hwaiting : Waiting now e)
    (hact : ∀ t, act e._callback now t = t) (hlast : e.foundTime now = some last) :
    ∃ s, turn act now t front.length = some (s, true, (e.fire now last).calls) ∧
      s._events = front ++ (e.fire now last).event :: es ∧
      s._noMultipleEvents = t._noMultipleEvents := by
  rw [turn_of_waiting ht hwaiting, hlast, Option.map_some, hact,
    fire_calls_of_live now last hwaiting.1]
  refine ⟨_, rfl, ?_, rfl⟩
  rw [modifyEvent_events, modifyEvent_events, ht, modify_append, modify_append, fire_event]

variable {act}

/-- The table, the mode and the calls after an update. -/
def outcome (r : RTCTimer α × List (α × UInt32)) :
    List (RTCEvent α) × Bool × List (α × UInt32) :=
  (r.1._events, r.1._noMultipleEvents, r.2)

/-- Calls that were made earlier in the loop. -/
lemma map_outcome_append (calls : List (α × UInt32))
    (r : Option (RTCTimer α × List (α × UInt32))) :
    (r.map fun (t, calls') => (t, calls ++ calls')).map outcome =
      (r.map outcome).map fun (es, mode, calls') => (es, mode, calls ++ calls') := by
  rw [Option.map_map, Option.map_map]
  rfl

/-- The loop over the rest of the table, when no callback touches the scheduler. -/
lemma loop_inert (ht : t._events = front ++ es) :
    (loop (fun _ _ t => t) now (List.range' front.length es.length) t).map outcome =
      (updateFrom t._noMultipleEvents now es).map fun (es, calls) =>
        (front ++ es, t._noMultipleEvents, calls) := by
  induction es generalizing front t with
  | nil => exact congrArg (fun es => some (es, t._noMultipleEvents, [])) ht
  | cons e es ih =>
    rw [updateFrom_cons]
    by_cases hwaiting : Waiting now e
    · rw [if_pos hwaiting, update_eq_foundTime hwaiting.2, Option.bind_map]
      cases hlast : e.foundTime now with
      | none =>
        rw [List.length_cons, List.range'_succ, loop, turn_of_waiting ht hwaiting, hlast]
        rfl
      | some last =>
        obtain ⟨s, hturn, hs, hmode⟩ :=
          turn_inert (fun _ _ t => t) ht hwaiting (fun _ => rfl) hlast
        rw [loop_of_turn hturn (length_concat front (e.fire now last).event), hmode,
          Option.bind_some, Function.comp_apply]
        dsimp only
        split
        · rw [Option.map_some, Option.map_some, outcome, hs, hmode]
        · rw [map_outcome_append, ih (hs.trans (List.append_cons ..)), hmode, Option.map_map,
            Option.map_map]
          refine Option.map_congr fun r _ => ?_
          exact congrArg (fun es => (es, t._noMultipleEvents, _)) (List.append_cons ..).symm
    · rw [if_neg hwaiting, loop_of_not_waiting ht hwaiting (length_concat front e),
        ih (ht.trans (List.append_cons ..)), Option.map_map]
      refine Option.map_congr fun r _ => ?_
      exact congrArg (fun es => (es, t._noMultipleEvents, r.2)) (List.append_cons ..).symm

/-- With callbacks that leave the scheduler alone this is `update`. -/
theorem updateWith_inert (t : RTCTimer α) (now : UInt32) :
    t.updateWith (fun _ _ t => t) now = t.update now := by
  have hloop := @loop_inert α now t [] t._events rfl
  rw [List.length_nil, t.size, ← List.range_eq_range'] at hloop
  refine Option.map_injective (f := outcome) ?_ ?_
  · rintro ⟨⟨es, hsize, mode⟩, calls⟩ ⟨⟨es', hsize', mode'⟩, calls'⟩ heq
    cases heq
    rfl
  · refine hloop.trans ?_
    unfold update
    split <;>
    · next hrest =>
      exact congrArg (Option.map _) hrest

end

end RTCTimer

end ArduinoProjects
