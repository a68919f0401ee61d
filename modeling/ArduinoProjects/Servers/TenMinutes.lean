import ArduinoProjects.Servers.Sketch

/-!
# The ten-minute rule of the servers

A server means to read its thermocouple when the minute is a multiple of ten and the
second is 0, and tests three characters for that: the last digits of minute and second,
and the first character of the minute. A minute below ten is padded with a blank and a
later one begins with another digit than 0, so the third test fails in every frame
(`not_gate`).
-/

namespace ArduinoProjects.Servers

open Util

/-- A frame in the layout of the servers' slots, with the time it shows. -/
structure Frame where
  bytes : ℕ → UInt8
  minute : ℕ
  second : ℕ
  minute_lt : minute < 60
  second_lt : second < 60
  shows_minute : [bytes 20, bytes 21] = column 2 minute
  shows_second : [bytes 23, bytes 24] = column 2 second

/-- The minute is a multiple of ten and the second is 0. -/
def Frame.Due (f : Frame) : Prop := f.minute % 10 = 0 ∧ f.second = 0

instance : DecidablePred Frame.Due := fun _ => inferInstanceAs (Decidable (_ ∧ _))

/-- No minute is written with a 0 in front. -/
lemma head_column_two_ne_zero {n : ℕ} (h : n < 60) : (column 2 n).head? ≠ some 48 := by
  rw [column_succ (by omega), leading, leading]
  show some _ ≠ some _
  rw [Ne, Option.some.injEq]
  split
  · decide
  · next hten =>
    intro hzero
    have := (digit_inj (Nat.mod_lt _ (by norm_num)) (by norm_num : 0 < 10)).mp hzero
    omega

/-- The gate is shut for every time of day. -/
lemma not_gate {Moji : ℕ → UInt8} {f : Frame} (h : Moji 20 = f.bytes 20) : ¬ gate Moji := by
  intro hgate
  have hzero : Moji 20 = 48 := char_inj.mp (hgate.2.2.trans (rfl : 48 = char 48))
  apply head_column_two_ne_zero f.minute_lt
  rw [← f.shows_minute, List.head?_cons, ← h, hzero]

/-! ## Runs -/

variable (sv : Server) (f : ℕ → Frame) (env : ℕ → Env)

/-- Pass `n` receives frame `n`. -/
def passes (n : ℕ) : FixedCount.Pass Env := ⟨true, (f n).bytes, env n⟩

/-- The buffer and the variables before pass `n`. -/
def before (n : ℕ) : (ℕ → UInt8) × State :=
  run (sv.sketch.loop sv.rest) (fun _ => 0, setup) (passes f env) n

/-- Pass `n` reads the thermocouple. -/
def SamplesAt (n : ℕ) : Prop := gate (sv.sketch.receive (passes f env n) (before sv f env n).1)

instance : DecidablePred (SamplesAt sv f env) := fun _ => inferInstanceAs (Decidable (gate _))

/-- The fault-free readings that are due: those of the passes at whole ten minutes. -/
def Counts (m : ℕ) : Prop := (f m).Due ∧ ¬ (env m).spi.fault

instance : DecidablePred (Counts f env) := fun _ => inferInstanceAs (Decidable (_ ∧ _))

/-- The reading that pass `n` is to log. -/
def heldHanoura (n : ℕ) : ℚ :=
  held (Counts f env) (fun m => Thermocouple.decode (env m).spi.thermocouple) 0 n

/-- Pass `n` samples iff it is due, and logs the latest fault-free reading that was. -/
def TenMinuteRule (n : ℕ) : Prop :=
  (SamplesAt sv f env n ↔ (f n).Due) ∧ (before sv f env (n + 1)).2.Hanoura = heldHanoura f env n

/-- The whole frame is in the buffer behind the receive loop. -/
lemma receive_apply (Moji : ℕ → UInt8) {n j : ℕ} (h : j < 38) :
    sv.sketch.receive (passes f env n) Moji j = (f n).bytes j := by
  have hcount : sv.sketch.count = 38 := by cases sv <;> rfl
  rw [FixedCount.Sketch.receive, if_neg (fun hskip => hskip.2 rfl), FixedCount.store_apply,
    if_pos (by omega)]
  rfl

/-- No pass takes a sample. -/
lemma not_samplesAt (n : ℕ) : ¬ SamplesAt sv f env n :=
  not_gate (receive_apply sv f env _ (by norm_num))

/-- So the variable keeps the value it was born with. -/
lemma before_Hanoura (n : ℕ) : (before sv f env n).2.Hanoura = 0 := by
  induction n with
  | zero => rfl
  | succ n ih =>
    have hstep : (before sv f env (n + 1)).2.Hanoura =
        if SamplesAt sv f env n then
          Thermocouple.sample (before sv f env n).2.Hanoura (env n).spi
        else (before sv f env n).2.Hanoura := rfl
    rw [hstep, if_neg (not_samplesAt sv f env n), ih]

/-- The rule holds throughout a run iff no pass of it is due. -/
theorem ten_minutes_iff : (∀ n, TenMinuteRule sv f env n) ↔ ∀ n, ¬ (f n).Due := by
  constructor
  · intro h n hdue
    exact not_samplesAt sv f env n ((h n).1.mpr hdue)
  · intro h n
    refine ⟨iff_of_false (not_samplesAt sv f env n) (h n), ?_⟩
    have hnone : latest (Counts f env) n = none :=
      (latest_eq_none_iff _ n).mpr fun m _ hcounts => h m hcounts.1
    rw [before_Hanoura, heldHanoura, held_of_none hnone]

/-- Ten minutes past the hour. -/
def tenPast : Frame where
  bytes j := if j = 20 then 0x31 else if j = 23 then 0x20 else 0x30
  minute := 10
  second := 0
  minute_lt := by norm_num
  second_lt := by norm_num
  shows_minute := by decide
  shows_second := by decide

/-- The due pass at ten past reads nothing. -/
theorem ten_past_unsampled :
    ¬ ∀ (sv : Server) (f : ℕ → Frame) (env : ℕ → Env) (n : ℕ), TenMinuteRule sv f env n := by
  intro h
  have hrule := h .SDServerSide (fun _ => tenPast) (fun _ => ⟨⟨0x01, 0x90, 0, 0⟩, true, []⟩) 0
  exact not_samplesAt _ _ _ 0 (hrule.1.mpr ⟨rfl, rfl⟩)

end ArduinoProjects.Servers
