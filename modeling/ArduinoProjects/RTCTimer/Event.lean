import ArduinoProjects.Util.Counter
import ArduinoProjects.Util.Polling

/-!
# `RTCEvent`

A slot of the scheduler remembers the last time it was due and its period. An update at or
after the next due time moves the last time on, past everything that was missed, and calls
the callback once. Times are 32-bit counters that may wrap around.
-/

namespace ArduinoProjects

open Util

/-- Whether a slot is in use. -/
inductive RTCEventType
  | RTCEvent_None
  | RTCEvent_Every
deriving DecidableEq

/-- A slot; callbacks are some type. -/
structure RTCEvent (α : Type*) where
  _eventType : RTCEventType
  _lastEventTime : UInt32
  _period : UInt32
  _count : ℤ
  _repeatCount : ℤ
  _callback : α
deriving DecidableEq

namespace RTCEvent

/-- The `while` loop that skips all the events that are in the past. -/
def skip (now period : UInt32) : ℕ → UInt32 → Option UInt32
  | 0, _ => none
  | fuel + 1, last =>
    if (now - (last + period)).toInt32 ≥ 0 then skip now period fuel (last + period)
    else some last

variable {α : Type*}

/-- The slot after an update, the return value and the calls of the callback. -/
structure Updated (α : Type*) where
  event : RTCEvent α
  doneEvent : Bool
  calls : List (α × UInt32)

/-- What an update does when it has found the last time, if the callback leaves the scheduler
alone. -/
def fire (e : RTCEvent α) (now last : UInt32) : Updated α where
  event :=
    if e._repeatCount > 0 then
      { e with
        _lastEventTime := last
        _count := e._count + 1
        -- done, free the event
        _eventType := if e._count + 1 ≥ e._repeatCount then .RTCEvent_None else e._eventType }
    else { e with _lastEventTime := last }
  doneEvent := true
  calls :=
    match e._eventType with
    | .RTCEvent_Every => [(e._callback, now)]
    | .RTCEvent_None => []

/-- The event is due. -/
def Due (e : RTCEvent α) (now : UInt32) : Prop :=
  (now - (e._lastEventTime + e._period)).toInt32 ≥ 0

instance (e : RTCEvent α) (now : UInt32) : Decidable (e.Due now) :=
  inferInstanceAs (Decidable (_ ≥ _))

/-- An update; it has no result if the loop does not end. -/
def update (e : RTCEvent α) (now : UInt32) : Option (Updated α) :=
  if e.Due now then
    -- in case this wasn't initialized properly
    if e._lastEventTime = 0 then some (e.fire now now)
    else (skip now e._period (2 ^ 32) e._lastEventTime).map (e.fire now)
  else some ⟨e, false, []⟩

/-! ## Whether an update ends -/

/-- A bound on the turns that are left, by the distance to the last time. A period of more than
half a range takes the last time backwards, once around. -/
def turnsLeft (period distance : ℕ) : ℕ :=
  if period ≤ 2 ^ 31 then distance else if distance < 2 ^ 31 then 2 ^ 31 - distance else 2 ^ 31 + 1

/-- The loop ends when the period is not 0. -/
lemma skip_isSome {now period : UInt32} (hp : 0 < period.toNat) :
    ∀ (fuel : ℕ) (last : UInt32), turnsLeft period.toNat (now - last).toNat < fuel →
      (skip now period fuel last).isSome := by
  intro fuel
  induction fuel with
  | zero =>
    intro last hfuel
    exact absurd hfuel (Nat.not_lt_zero _)
  | succ fuel ih =>
    intro last hfuel
    have hsub : (now - (last + period)).toNat =
        (2 ^ 32 - period.toNat + (now - last).toNat) % 2 ^ 32 := by
      rw [← UInt32.toNat_sub]
      congr 1
      grind
    have hlt := (now - last).toNat_lt
    have hperiod := period.toNat_lt
    rw [skip]
    split
    · next hdue =>
      rw [toInt32_nonneg_iff, hsub] at hdue
      refine ih _ ?_
      rw [hsub]
      generalize (now - last).toNat = x at hlt hfuel hdue ⊢
      generalize period.toNat = p at hp hperiod hfuel hdue ⊢
      unfold turnsLeft at hfuel ⊢
      by_cases hsmall : p ≤ 2 ^ 31
      · rw [if_pos hsmall] at hfuel ⊢
        omega
      · rw [if_neg hsmall] at hfuel ⊢
        have hnext : (2 ^ 32 - p + x) % 2 ^ 32 < 2 ^ 31 := hdue
        rw [if_pos hnext]
        split at hfuel <;> omega
    · rfl

/-- A period of 0 is never over. -/
lemma skip_zero_period {now last : UInt32} (h : (now - (last + 0)).toInt32 ≥ 0) (fuel : ℕ) :
    skip now 0 fuel last = none := by
  induction fuel with
  | zero => rfl
  | succ fuel ih =>
    rw [skip, if_pos h, UInt32.add_zero]
    exact ih

/-- An update ends unless the period is 0. -/
theorem update_isSome_iff (e : RTCEvent α) (now : UInt32) :
    (e.update now).isSome ↔ e._period ≠ 0 ∨ e._lastEventTime = 0 ∨ ¬ e.Due now := by
  unfold update
  by_cases hdue : e.Due now
  · rw [if_pos hdue]
    by_cases hlast : e._lastEventTime = 0
    · rw [if_pos hlast]
      exact iff_of_true rfl (Or.inr (Or.inl hlast))
    · rw [if_neg hlast, Option.isSome_map]
      by_cases hp : e._period = 0
      · have hdue₀ := hdue
        rw [Due, hp] at hdue₀
        rw [hp, skip_zero_period hdue₀]
        exact iff_of_false Bool.false_ne_true fun h =>
          h.elim (fun h => h rfl) fun h => h.elim hlast fun h => h hdue
      · have hpos : 0 < e._period.toNat :=
          Nat.pos_of_ne_zero fun h0 => hp (UInt32.toNat_inj.mp h0)
        refine iff_of_true (skip_isSome hpos _ _ ?_) (Or.inl hp)
        have hlt := (now - e._lastEventTime).toNat_lt
        unfold turnsLeft
        split
        · exact hlt
        · split <;> omega
  · rw [if_neg hdue]
    exact iff_of_true rfl (Or.inr (Or.inr hdue))

/-! ## After an update -/

/-- When the loop ends, the next event is in the future. -/
lemma skip_ended {now period l : UInt32} {fuel : ℕ} {last : UInt32}
    (h : skip now period fuel last = some l) : ¬ (now - (l + period)).toInt32 ≥ 0 := by
  induction fuel generalizing last with
  | zero => cases h
  | succ fuel ih =>
    rw [skip] at h
    split at h
    · exact ih h
    · next hearly =>
      cases h
      exact hearly

section
variable {e : RTCEvent α} (now last : UInt32)

lemma fire_period : (e.fire now last).event._period = e._period := by
  unfold fire
  split <;> rfl

lemma fire_callback : (e.fire now last).event._callback = e._callback := by
  unfold fire
  split <;> rfl

lemma fire_lastEventTime : (e.fire now last).event._lastEventTime = last := by
  unfold fire
  split <;> rfl

lemma fire_calls (h : e._eventType = .RTCEvent_Every) :
    (e.fire now last).calls = [(e._callback, now)] := by
  unfold fire
  rw [h]

end

lemma update_of_due {e : RTCEvent α} {now : UInt32} {u : Updated α} (h : e.update now = some u)
    (hdue : e.Due now) : ∃ last, u = e.fire now last := by
  rw [update, if_pos hdue] at h
  split at h
  · cases h
    exact ⟨now, rfl⟩
  · obtain ⟨last, -, hu⟩ := Option.map_eq_some_iff.mp h
    exact ⟨last, hu.symm⟩

lemma update_of_not_due {e : RTCEvent α} {now : UInt32} {u : Updated α}
    (h : e.update now = some u) (hdue : ¬ e.Due now) : u = ⟨e, false, []⟩ := by
  rw [update, if_neg hdue] at h
  exact (Option.some.inj h).symm

/-- An event that was due is not due any more. -/
lemma not_due_update {e : RTCEvent α} {now : UInt32} {u : Updated α} (h : e.update now = some u)
    (hdue : e.Due now)
    (hperiod : e._lastEventTime = 0 → 0 < e._period.toNat ∧ e._period.toNat ≤ 2 ^ 31) :
    ¬ u.event.Due now := by
  rw [update, if_pos hdue] at h
  split at h
  · next hlast =>
    cases h
    obtain ⟨hpos, hle⟩ := hperiod hlast
    rw [Due, fire_lastEventTime, fire_period, toInt32_nonneg_iff]
    have hsub : now - (now + e._period) = 0 - e._period := by grind
    have hlt := e._period.toNat_lt
    rw [hsub, UInt32.toNat_sub, UInt32.toNat_zero, Nat.add_zero, Nat.mod_eq_of_lt (by omega)]
    omega
  · obtain ⟨last, hskip, hu⟩ := Option.map_eq_some_iff.mp h
    rw [← hu, Due, fire_lastEventTime, fire_period]
    exact skip_ended hskip

/-! ## Runs -/

/-- One turn of the loop in `RTCTimer::update`: a free slot is passed over. -/
def poll (e : RTCEvent α) (now : UInt32) : Option (Updated α) :=
  if e._eventType ≠ .RTCEvent_None then e.update now else some ⟨e, false, []⟩

/-- Polls at certain times: the slot after them and the calls of its callback. -/
def runs (e : RTCEvent α) : List ℕ → Option (RTCEvent α × List (α × UInt32))
  | [] => some (e, [])
  | t :: ts => (e.poll (UInt32.ofNat t)).bind fun u =>
      (runs u.event ts).map fun (e, calls) => (e, u.calls ++ calls)

/-! ## The last time -/

/-- A period later, on the counter. -/
lemma ofNat_add_period (l : ℕ) (period : UInt32) :
    UInt32.ofNat l + period = UInt32.ofNat (l + period.toNat) := by
  rw [UInt32.ofNat_add, UInt32.ofNat_toNat]

/-- The loop stops at the last beginning of a period. -/
lemma skip_eq {period : UInt32} (hp : 0 < period.toNat ∧ period.toNat ≤ 2 ^ 31) {t : ℕ} :
    ∀ (fuel l : ℕ), l ≤ t → t < l + period.toNat + 2 ^ 31 → turn period.toNat l t < fuel →
      skip (UInt32.ofNat t) period fuel (UInt32.ofNat l) =
        some (UInt32.ofNat (l + period.toNat * turn period.toNat l t)) := by
  intro fuel
  induction fuel with
  | zero =>
    intro l _ _ hfuel
    exact absurd hfuel (Nat.not_lt_zero _)
  | succ fuel ih =>
    intro l hle hlt hfuel
    rw [skip, ofNat_add_period]
    simp only [ofNat_sub_nonneg_iff (show l + period.toNat ≤ t + 2 ^ 31 by omega) hlt]
    split
    · next hdue =>
      -- a period later there is one period less to skip
      have hturn : turn period.toNat l t = turn period.toNat (l + period.toNat) t + 1 := by
        rw [turn, turn, Nat.div_eq_sub_div hp.1 (by omega), ← Nat.sub_sub]
      rw [ih _ hdue (by omega) (by omega), hturn, Nat.mul_add, Nat.mul_one]
      congr 2
      omega
    · next hearly =>
      have hturn : turn period.toNat l t = 0 := Nat.div_eq_of_lt (by omega)
      rw [hturn, Nat.mul_zero, Nat.add_zero]

/-- The last time is the last beginning of a period that was seen; periods count from
`start`. -/
structure OnGrid (e : RTCEvent α) (start t : ℕ) : Prop where
  period : 0 < e._period.toNat ∧ e._period.toNat ≤ 2 ^ 31
  start_le : start ≤ t
  last : e._lastEventTime =
    UInt32.ofNat (start + e._period.toNat * turn e._period.toNat start t)

/-- An update no more than half a range later fires iff a period has begun since. -/
lemma OnGrid.update {e : RTCEvent α} {start t t' : ℕ} (h : e.OnGrid start t) (hle : t ≤ t')
    (hgap : t' ≤ t + 2 ^ 31)
    (hzero : turn e._period.toNat start t < turn e._period.toNat start t' →
      e._lastEventTime ≠ 0) :
    e.update (UInt32.ofNat t') =
      if turn e._period.toNat start t < turn e._period.toNat start t' then
        some (e.fire (UInt32.ofNat t')
          (UInt32.ofNat (start + e._period.toNat * turn e._period.toNat start t')))
      else some ⟨e, false, []⟩ := by
  obtain ⟨hp, hmax⟩ := h.period
  have hbounds := turn_bounds hp h.start_le
  have hlast := h.last
  have hnext := le_turn_iff hp (h.start_le.trans hle) (k := turn e._period.toNat start t + 1)
  rw [Nat.mul_add, Nat.mul_one, ← Nat.add_assoc, Nat.succ_le_iff] at hnext
  have hturn (hD : start + e._period.toNat * turn e._period.toNat start t ≤ t') :=
    turn_add_mul hp hD
  generalize hD : start + e._period.toNat * turn e._period.toNat start t = D at *
  have hdue : e.Due (UInt32.ofNat t') ↔ D + e._period.toNat ≤ t' := by
    rw [Due, hlast, ofNat_add_period]
    exact ofNat_sub_nonneg_iff (by omega) (by omega)
  rw [RTCEvent.update]
  simp only [hdue, ← hnext]
  by_cases hnew : turn e._period.toNat start t < turn e._period.toNat start t'
  · have hfuel : turn e._period.toNat D t' < 2 ^ 32 := by
      refine lt_of_le_of_lt (Nat.div_le_self _ _) ?_
      omega
    rw [if_pos hnew, if_pos hnew, if_neg (hzero hnew), hlast,
      skip_eq h.period (2 ^ 32) D (by omega) (by omega) hfuel, ← hD, Nat.add_assoc,
      ← Nat.mul_add, hD, hturn (by omega)]
    rfl
  · rw [if_neg hnew, if_neg hnew]

/-! ## The calls of a run -/

/-- The callback of a slot is not called more often than its repeat count, if it has one. -/
def allowed {β : Type*} (e : RTCEvent α) (l : List β) : List β :=
  match e._eventType with
  | .RTCEvent_None => []
  | .RTCEvent_Every =>
    if e._repeatCount > 0 then l.take (e._repeatCount - e._count).toNat else l

/-- A slot in use has calls left. -/
def CountsRight (e : RTCEvent α) : Prop :=
  e._eventType = .RTCEvent_Every → e._repeatCount > 0 → e._count < e._repeatCount

/-- A call uses up one of those that are allowed. -/
lemma allowed_fire {e : RTCEvent α} (now last : UInt32) {β : Type*}
    (h : e._eventType = .RTCEvent_Every) (hcount : e.CountsRight) (x : β) (l : List β) :
    e.allowed (x :: l) = x :: (e.fire now last).event.allowed l ∧
      (e.fire now last).event.CountsRight := by
  have hleft := hcount h
  unfold fire allowed CountsRight
  rw [h]
  by_cases hrepeat : e._repeatCount > 0
  · have hlt := hleft hrepeat
    simp only [if_pos hrepeat]
    by_cases hdone : e._count + 1 ≥ e._repeatCount
    · have hone : (e._repeatCount - e._count).toNat = 1 := by omega
      simp only [if_pos hdone, hone, List.take_succ_cons, List.take_zero]
      exact ⟨trivial, fun hnone => by cases hnone⟩
    · have hsucc : (e._repeatCount - e._count).toNat =
          (e._repeatCount - (e._count + 1)).toNat + 1 := by omega
      simp only [if_neg hdone, hsucc, List.take_succ_cons]
      exact ⟨trivial, fun _ _ => not_le.mp hdone⟩
  · simp only [if_neg hrepeat]
    exact ⟨trivial, fun _ h => absurd h hrepeat⟩

/-- Nothing happens to a free slot. -/
lemma runs_free {e : RTCEvent α} (h : e._eventType = .RTCEvent_None) (ts : List ℕ) :
    e.runs ts = some (e, []) := by
  induction ts with
  | nil => rfl
  | cons t ts ih =>
    rw [runs, poll, if_neg (not_not.mpr h), Option.bind_some]
    dsimp only
    rw [ih]
    rfl

/-- A slot calls its callback at exactly the polls that find a new period, as often as its
repeat count allows. -/
lemma runs_eq {e : RTCEvent α} {start t : ℕ} {ts : List ℕ} (h : e.OnGrid start t)
    (hevery : e._eventType = .RTCEvent_Every) (hcount : e.CountsRight)
    (hts : Polls (2 ^ 31) t ts)
    (hzero : ∀ t' ∈ ts, ∀ k, start + e._period.toNat * k ≤ t' →
      (start + e._period.toNat * k) % 2 ^ 32 ≠ 0) :
    ∃ e', e.runs ts = some (e', (e.allowed (crossings e._period.toNat start t ts)).map
      fun t => (e._callback, UInt32.ofNat t)) := by
  induction ts generalizing e t with
  | nil =>
    refine ⟨e, ?_⟩
    have hnil : e.allowed ([] : List ℕ) = [] := by
      unfold allowed
      rw [hevery]
      simp only [List.take_nil, ite_self]
    rw [crossings, hnil]
    rfl
  | cons t' ts ih =>
    obtain ⟨⟨hle, hgap⟩, hrest⟩ := polls_cons.mp hts
    have hbounds := turn_bounds h.period.1 h.start_le
    have hlast : e._lastEventTime ≠ 0 := by
      have hne := hzero t' List.mem_cons_self _ (hbounds.1.trans hle)
      rw [h.last, Ne, ← UInt32.toNat_inj, UInt32.toNat_ofNat']
      exact hne
    have hupdate := h.update hle hgap fun _ => hlast
    have hlive : e._eventType ≠ .RTCEvent_None := by
      rw [hevery]
      exact RTCEventType.noConfusion
    rw [runs, poll, if_pos hlive, hupdate, crossings]
    by_cases hnew : turn e._period.toNat start t < turn e._period.toNat start t'
    · rw [if_pos hnew, if_pos hnew, Option.bind_some]
      generalize hlater : UInt32.ofNat (start + e._period.toNat * turn e._period.toNat start t') =
        last
      obtain ⟨hallowed, hcount'⟩ := allowed_fire (UInt32.ofNat t') last hevery hcount t'
        (crossings e._period.toNat start t' ts)
      rw [hallowed, fire_calls _ _ hevery]
      cases hfree : (e.fire (UInt32.ofNat t') last).event._eventType with
      | RTCEvent_None =>
        refine ⟨(e.fire (UInt32.ofNat t') last).event, ?_⟩
        rw [runs_free hfree, allowed, hfree]
        rfl
      | RTCEvent_Every =>
        have hgrid : (e.fire (UInt32.ofNat t') last).event.OnGrid start t' := by
          refine ⟨?_, h.start_le.trans hle, ?_⟩
          · rw [fire_period]
            exact h.period
          · rw [fire_period, fire_lastEventTime, hlater]
        obtain ⟨e', he'⟩ := ih hgrid hfree hcount' hrest fun t'' ht => by
          rw [fire_period]
          exact hzero t'' (List.mem_cons_of_mem _ ht)
        refine ⟨e', ?_⟩
        rw [he', fire_period, fire_callback]
        rfl
    · rw [if_neg hnew, if_neg hnew, Option.bind_some]
      have hsame : turn e._period.toNat start t' = turn e._period.toNat start t :=
        le_antisymm (not_lt.mp hnew) (turn_mono hle)
      have hgrid : e.OnGrid start t' := ⟨h.period, h.start_le.trans hle, by rw [hsame, h.last]⟩
      obtain ⟨e', he'⟩ := ih hgrid hevery hcount hrest
        fun t'' ht => hzero t'' (List.mem_cons_of_mem _ ht)
      refine ⟨e', ?_⟩
      rw [he']
      rfl

/-- A slot that was set up at the time `start`, with a callback and no call yet. -/
structure SetUp (e : RTCEvent α) (start : ℕ) : Prop where
  every : e._eventType = .RTCEvent_Every
  period : 0 < e._period.toNat ∧ e._period.toNat ≤ 2 ^ 31
  last : e._lastEventTime = UInt32.ofNat start
  count : e._count = 0

lemma SetUp.onGrid {e : RTCEvent α} {start : ℕ} (h : e.SetUp start) : e.OnGrid start start :=
  ⟨h.period, le_rfl, by rw [turn_self, Nat.mul_zero, Nat.add_zero, h.last]⟩

lemma SetUp.countsRight {e : RTCEvent α} {start : ℕ} (h : e.SetUp start) : e.CountsRight :=
  fun _ hrepeat => by
    rw [h.count]
    exact hrepeat

/-- A slot that is polled at least once in every period calls its callback for the `i`-th time
at the first poll at or after `i` periods, as often as its repeat count allows: no call is
lost, and delays do not add up. -/
theorem calls_on_schedule {e : RTCEvent α} {start : ℕ} (h : e.SetUp start) {ts : List ℕ}
    (hts : Polls e._period.toNat start ts)
    (hzero : ∀ t ∈ ts, ∀ k, start + e._period.toNat * k ≤ t →
      (start + e._period.toNat * k) % 2 ^ 32 ≠ 0) :
    ∃ e' calls, e.runs ts = some (e', calls) ∧ ∀ i : ℕ, calls[i]? =
      if e._repeatCount > 0 ∧ e._repeatCount ≤ i then none
      else (ts.find? fun t => start + e._period.toNat * (i + 1) ≤ t).map
        fun t => (e._callback, UInt32.ofNat t) := by
  obtain ⟨e', he'⟩ := runs_eq h.onGrid h.every h.countsRight (hts.mono h.period.2) hzero
  refine ⟨e', _, he', fun i => ?_⟩
  have hcross := getElem?_crossings h.period.1 le_rfl hts i
  rw [turn_self, Nat.zero_add] at hcross
  rw [List.getElem?_map, allowed, h.every, h.count, sub_zero]
  dsimp only
  by_cases hrepeat : e._repeatCount > 0
  · rw [if_pos hrepeat]
    by_cases hdone : e._repeatCount ≤ i
    · have hlen := List.length_take_le (e._repeatCount).toNat
        (crossings e._period.toNat start start ts)
      rw [if_pos ⟨hrepeat, hdone⟩, List.getElem?_eq_none (by omega)]
      rfl
    · rw [if_neg (fun hand => hdone hand.2), List.getElem?_take_of_lt (by omega), hcross]
  · rw [if_neg hrepeat, if_neg (fun hand => hrepeat hand.1), hcross]

end RTCEvent

end ArduinoProjects
