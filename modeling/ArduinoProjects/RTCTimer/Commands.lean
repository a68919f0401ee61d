import ArduinoProjects.RTCTimer.Timer
import Mathlib.Algebra.Order.BigOperators.Group.List

/-!
# Histories of the scheduler

A sketch sets up, resets, adjusts and updates one scheduler in any order. A callback that was
set up with repeat counts has been called exactly as often as they say, less what the slots in
use have left (`calls_add_left`).
-/

namespace ArduinoProjects.RTCTimer

open RTCEvent

variable {α : Type*}

/-- `update()`: the time is what the callback for it returns, if there is one. -/
def updateNow (t : RTCTimer α) (now : Option UInt32) :
    Option (RTCTimer α × List (α × UInt32)) :=
  if now.getD 0 ≠ 0 then t.update (now.getD 0) else some (t, [])

/-- What a sketch may ask of a scheduler. -/
inductive Command (α : Type*)
  | every (now : Option UInt32) (period : UInt32) (callback : α) (repeatCount : ℤ)
  | resetAll (now : UInt32)
  | adjust (old now : UInt32)
  | allowMultipleEvents (allow : Bool)
  | updateNow (now : Option UInt32)
  | update (now : UInt32)

/-- The scheduler after some commands, the calls they made and the callbacks they set up, each
with its repeat count. -/
structure Trace (α : Type*) where
  timer : RTCTimer α
  calls : List (α × UInt32)
  granted : List (α × ℤ)

/-- One command. -/
def step (t : RTCTimer α) : Command α → Option (Trace α)
  | .every now period callback repeatCount =>
    let (i, t) := t.every now period callback repeatCount
    some ⟨t, [], if i = -1 then [] else [(callback, repeatCount)]⟩
  | .resetAll now => some ⟨t.resetAll now, [], []⟩
  | .adjust old now => some ⟨t.adjust old now, [], []⟩
  | .allowMultipleEvents allow => some ⟨t.allowMultipleEvents allow, [], []⟩
  | .updateNow now => (t.updateNow now).map fun (t, calls) => ⟨t, calls, []⟩
  | .update now => (t.update now).map fun (t, calls) => ⟨t, calls, []⟩

/-- A history; it has no result if one of its updates hangs. -/
def run (t : RTCTimer α) : List (Command α) → Option (Trace α)
  | [] => some ⟨t, [], []⟩
  | c :: cs => (t.step c).bind fun r => (run r.timer cs).map fun r' =>
      ⟨r'.timer, r.calls ++ r'.calls, r.granted ++ r'.granted⟩

/-- What a command that is not a set-up does to the slots: it updates them, or it changes nothing
but their last times. -/
lemma step_cases {t : RTCTimer α} {c : Command α} {r : Trace α} (h : t.step c = some r) :
    (∃ now period callback repeatCount, c = .every now period callback repeatCount ∧
      r = ⟨(t.every now period callback repeatCount).2, [],
        if (t.every now period callback repeatCount).1 = -1 then []
        else [(callback, repeatCount)]⟩) ∨
    (∃ now, updateFrom t._noMultipleEvents now t._events = some (r.timer._events, r.calls) ∧
      r.granted = []) ∨
    ((∃ last : RTCEvent α → UInt32,
        r.timer._events = t._events.map fun e => { e with _lastEventTime := last e }) ∧
      r.calls = [] ∧ r.granted = []) := by
  have hsame : t._events = t._events.map fun e => { e with _lastEventTime := e._lastEventTime } :=
    (List.map_id' _).symm
  have hreset (now : UInt32) : (t.resetAll now)._events =
      t._events.map fun e => { e with
        _lastEventTime := if e._eventType ≠ .RTCEvent_None then now else e._lastEventTime } := by
    refine List.map_congr_left fun e _ => ?_
    split <;> rfl
  have hupdate {now : UInt32} {r : Trace α}
      (h : (t.update now).map (fun (t, calls) => (⟨t, calls, []⟩ : Trace α)) = some r) :
      updateFrom t._noMultipleEvents now t._events = some (r.timer._events, r.calls) ∧
        r.granted = [] := by
    obtain ⟨⟨t₁, calls⟩, hupdate, rfl⟩ := Option.map_eq_some_iff.mp h
    exact ⟨(update_eq_some.mp hupdate).1, rfl⟩
  cases c with
  | every now period callback repeatCount =>
    cases h
    exact Or.inl ⟨now, period, callback, repeatCount, rfl, rfl⟩
  | resetAll now =>
    cases h
    exact Or.inr (Or.inr ⟨⟨_, hreset now⟩, rfl, rfl⟩)
  | adjust old now =>
    cases h
    refine Or.inr (Or.inr ⟨?_, rfl, rfl⟩)
    dsimp only
    unfold adjust
    split
    · exact ⟨_, hreset now⟩
    · refine ⟨fun e => (adjustEvent now (now - old).toInt32 e)._lastEventTime,
        List.map_congr_left fun e _ => ?_⟩
      dsimp only
      unfold adjustEvent
      split
      · split <;> rfl
      · rfl
  | allowMultipleEvents allow =>
    cases h
    exact Or.inr (Or.inr ⟨⟨_, hsame⟩, rfl, rfl⟩)
  | updateNow now =>
    by_cases hnow : now.getD 0 ≠ 0
    · rw [step, updateNow, if_pos hnow] at h
      exact Or.inr (Or.inl ⟨_, hupdate h⟩)
    · rw [step, updateNow, if_neg hnow] at h
      cases h
      exact Or.inr (Or.inr ⟨⟨_, hsame⟩, rfl, rfl⟩)
  | update now => exact Or.inr (Or.inl ⟨now, hupdate h⟩)

/-! ## Calls that are left -/

section
variable [DecidableEq α]

/-- The calls that a slot still owes to a callback. -/
def owed (callback : α) (e : RTCEvent α) : ℤ :=
  if e._eventType ≠ .RTCEvent_None ∧ e._callback = callback then e._repeatCount - e._count else 0

/-- The calls that all slots still owe to a callback. -/
def left (callback : α) (es : List (RTCEvent α)) : ℤ := (es.map (owed callback)).sum

/-- The sum of the repeat counts with which a callback was set up. -/
def total (callback : α) (granted : List (α × ℤ)) : ℤ :=
  ((granted.filter fun g => g.1 = callback).map Prod.snd).sum

/-- A slot in use with this callback has a repeat count that is not used up. -/
def Counts (callback : α) (e : RTCEvent α) : Prop :=
  e._eventType ≠ .RTCEvent_None → e._callback = callback →
    0 < e._repeatCount ∧ e._count < e._repeatCount

/-- No slot has made more calls than it owes. -/
lemma owed_nonneg {callback : α} {e : RTCEvent α} (h : Counts callback e) :
    0 ≤ owed callback e := by
  unfold owed
  split
  · next hlive => exact sub_nonneg.mpr (h hlive.1 hlive.2).2.le
  · exact le_rfl

/-- A slot that fires owes one call less. -/
lemma owed_fire {callback : α} {e : RTCEvent α} (hlive : e._eventType ≠ .RTCEvent_None)
    (h : Counts callback e) (now last : UInt32) :
    (callsOf callback (e.fire now last).calls).length + owed callback (e.fire now last).event =
        owed callback e ∧ Counts callback (e.fire now last).event := by
  have hevery : e._eventType = .RTCEvent_Every := by
    cases htype : e._eventType with
    | RTCEvent_None => exact absurd htype hlive
    | RTCEvent_Every => rfl
  rw [fire_calls now last hevery]
  by_cases hsame : e._callback = callback
  · obtain ⟨hpos, hlt⟩ := h hlive hsame
    have hcall : callsOf callback [(e._callback, now)] = [(e._callback, now)] :=
      callsOf_self fun c hc => by rw [List.mem_singleton.mp hc, hsame]
    have howed : owed callback e = e._repeatCount - e._count := if_pos ⟨hlive, hsame⟩
    rw [hcall, List.length_singleton, howed]
    unfold owed Counts fire
    simp only [if_pos hpos, hsame, and_true]
    by_cases hdone : e._count + 1 ≥ e._repeatCount
    · simp only [if_pos hdone, ne_eq, not_true_eq_false, if_false]
      exact ⟨by push_cast; omega, fun hnot => hnot.elim⟩
    · simp only [if_neg hdone, if_pos hlive]
      exact ⟨by push_cast; omega, fun _ _ => ⟨hpos, not_le.mp hdone⟩⟩
  · have hother : (e.fire now last).event._callback ≠ callback := by
      rw [fire_callback]
      exact hsame
    have hcall : callsOf callback [(e._callback, now)] = [] :=
      callsOf_other fun c hc => by rw [List.mem_singleton.mp hc]; exact hsame
    rw [hcall, owed, owed, if_neg (fun hand => hother hand.2), if_neg (fun hand => hsame hand.2)]
    exact ⟨rfl, fun _ heq => absurd heq hother⟩

/-- An update makes the calls by which less is left. -/
lemma left_updateFrom {callback : α} {noMultipleEvents : Bool} {now : UInt32}
    {es es' : List (RTCEvent α)} {calls : List (α × UInt32)}
    (hcounts : ∀ e ∈ es, Counts callback e)
    (h : updateFrom noMultipleEvents now es = some (es', calls)) :
    (callsOf callback calls).length + left callback es' = left callback es ∧
      ∀ e ∈ es', Counts callback e := by
  induction es generalizing es' calls with
  | nil =>
    cases h
    exact ⟨zero_add _, hcounts⟩
  | cons e es ih =>
    rw [List.forall_mem_cons] at hcounts
    rw [updateFrom_cons] at h
    by_cases hwaiting : Waiting now e
    · rw [if_pos hwaiting] at h
      obtain ⟨u, hu, hes⟩ := Option.bind_eq_some_iff.mp h
      obtain ⟨last, rfl⟩ := update_of_due hu hwaiting.2
      obtain ⟨howed, hcount⟩ := owed_fire hwaiting.1 hcounts.1 now last
      split at hes
      · cases hes
        refine ⟨?_, List.forall_mem_cons.mpr ⟨hcount, hcounts.2⟩⟩
        rw [left, left, List.map_cons, List.map_cons, List.sum_cons, List.sum_cons, ← howed,
          add_assoc]
      · obtain ⟨⟨es₁, calls₁⟩, hrest, heq⟩ := Option.map_eq_some_iff.mp hes
        cases heq
        obtain ⟨hleft, hcounts'⟩ := ih hcounts.2 hrest
        refine ⟨?_, List.forall_mem_cons.mpr ⟨hcount, hcounts'⟩⟩
        rw [left, left] at hleft
        rw [left, left, List.map_cons, List.map_cons, List.sum_cons, List.sum_cons, ← howed,
          callsOf_append, List.length_append]
        push_cast
        linarith
    · rw [if_neg hwaiting] at h
      obtain ⟨⟨es₁, calls₁⟩, hrest, heq⟩ := Option.map_eq_some_iff.mp h
      cases heq
      obtain ⟨hleft, hcounts'⟩ := ih hcounts.2 hrest
      refine ⟨?_, List.forall_mem_cons.mpr ⟨hcounts.1, hcounts'⟩⟩
      rw [left, left] at hleft
      rw [left, left, List.map_cons, List.map_cons, List.sum_cons, List.sum_cons]
      linarith

/-- A new slot takes the place of one that owes nothing. -/
lemma left_set {callback : α} {es : List (RTCEvent α)} {i : ℕ} {e₀ : RTCEvent α}
    (he₀ : es[i]? = some e₀) (hfree : e₀._eventType = .RTCEvent_None) (e : RTCEvent α) :
    left callback (es.set i e) = left callback es + owed callback e := by
  obtain ⟨hlt, hget⟩ := List.getElem?_eq_some_iff.mp he₀
  have howed : owed callback e₀ = 0 := if_neg fun hand => hand.1 hfree
  rw [left, left, List.map_set, List.sum_set', dif_pos (by rwa [List.length_map]),
    List.getElem_map, hget, howed, neg_zero, zero_add]

lemma total_append (callback : α) (gs gs' : List (α × ℤ)) :
    total callback (gs ++ gs') = total callback gs + total callback gs' := by
  rw [total, List.filter_append, List.map_append, List.sum_append]
  rfl

/-- A command makes the calls by which less is left, after what it adds. -/
lemma left_step {callback : α} {t : RTCTimer α} {c : Command α} {r : Trace α}
    (h : t.step c = some r) (hcounts : ∀ e ∈ t._events, Counts callback e)
    (hpos : ∀ g ∈ r.granted, g.1 = callback → 0 < g.2) :
    (callsOf callback r.calls).length + left callback r.timer._events =
        left callback t._events + total callback r.granted ∧
      ∀ e ∈ r.timer._events, Counts callback e := by
  obtain ⟨now, period, callback', repeatCount, -, rfl⟩ | ⟨now, hupdate, hgranted⟩ |
    ⟨⟨last, hlast⟩, hcalls, hgranted⟩ := step_cases h
  · obtain ⟨hfull, -⟩ | ⟨i, e₀, t', hevery, he₀, hfree, hevents, -⟩ :=
      t.every_cases now period callback' repeatCount
    · rw [hfull, if_pos rfl]
      exact ⟨(zero_add _).trans (add_zero _).symm, hcounts⟩
    · have hindex : (i : ℤ) ≠ -1 := by omega
      rw [hevery] at hpos ⊢
      simp only [if_neg hindex, List.forall_mem_singleton] at hpos ⊢
      rw [hevents, left_set he₀ hfree]
      constructor
      · have howed :
            owed callback ⟨.RTCEvent_Every, now.getD 0, period, 0, repeatCount, callback'⟩ =
              total callback [(callback', repeatCount)] := by
          unfold owed total
          by_cases hsame : callback' = callback
          · rw [if_pos ⟨RTCEventType.noConfusion, hsame⟩,
              List.filter_cons_of_pos (by simpa using hsame)]
            exact (sub_zero _).trans (add_zero _).symm
          · rw [if_neg fun hand => hsame hand.2, List.filter_cons_of_neg (by simpa using hsame)]
            rfl
        rw [howed]
        exact zero_add _
      · intro e he
        obtain hold | rfl := List.mem_or_eq_of_mem_set he
        · exact hcounts e hold
        · exact fun _ hsame => ⟨hpos hsame, hpos hsame⟩
  · obtain ⟨hleft, hcounts'⟩ := left_updateFrom hcounts hupdate
    rw [hgranted, hleft]
    exact ⟨(add_zero _).symm, hcounts'⟩
  · rw [hcalls, hgranted, hlast, left, List.map_map]
    refine ⟨(zero_add _).trans (add_zero _).symm, fun e he => ?_⟩
    obtain ⟨e', he', rfl⟩ := List.mem_map.mp he
    exact hcounts e' he'

/-- Over a history, the calls and what is left add up to what was granted. -/
lemma left_run {callback : α} {t : RTCTimer α} {cs : List (Command α)} {r : Trace α}
    (h : t.run cs = some r) (hcounts : ∀ e ∈ t._events, Counts callback e)
    (hpos : ∀ g ∈ r.granted, g.1 = callback → 0 < g.2) :
    (callsOf callback r.calls).length + left callback r.timer._events =
        left callback t._events + total callback r.granted ∧
      ∀ e ∈ r.timer._events, Counts callback e := by
  induction cs generalizing t r with
  | nil =>
    cases h
    exact ⟨(zero_add _).trans (add_zero _).symm, hcounts⟩
  | cons c cs ih =>
    obtain ⟨r₁, hstep, hrest⟩ := Option.bind_eq_some_iff.mp h
    obtain ⟨r₂, hrun, rfl⟩ := Option.map_eq_some_iff.mp hrest
    rw [List.forall_mem_append] at hpos
    obtain ⟨hleft₁, hcounts₁⟩ := left_step hstep hcounts hpos.1
    obtain ⟨hleft₂, hcounts₂⟩ := ih hrun hcounts₁ hpos.2
    refine ⟨?_, hcounts₂⟩
    rw [callsOf_append, List.length_append, total_append]
    push_cast
    linarith

end

end ArduinoProjects.RTCTimer
