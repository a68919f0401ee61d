import ArduinoProjects.FixedCount.Receive
import ArduinoProjects.Thermocouple

/-!
# Satsumaimo2: the pass counter

`Satsumaimo2.ino` and `Satsumaimo2/Satsumaimo2.ino` differ in their receive loops and are
the same behind them: the thermocouple is to be read once in a thousand passes, counted
in `kaisu`. The counter is set back to 0 when it reaches 100, so it never reaches 999
(`never_samples`), and both relays send the value the variable was born with for good
(`Idle`).
The slots the sketches cut out of `Moji` are not used.
-/

namespace ArduinoProjects.Satsumaimo2

open Util FixedCount

/-- The globals behind the receive loop and the texts written there, in order. -/
structure State where
  kaisu : Int16
  Hanoura : ℚ
  sent : List (List UInt8)

/-- The state after `setup()`. -/
def setup : State := ⟨0, 0, []⟩

/-- `if (kaisu == 100) kaisu = 0;` -/
def wrap (s : State) : State := if s.kaisu = 100 then { s with kaisu := 0 } else s

/-- `if (kaisu == 999)`: the branch that reads the thermocouple is taken. -/
def Samples (s : State) : Prop := (wrap s).kaisu = 999

instance : DecidablePred Samples := fun _ => inferInstanceAs (Decidable (_ = _))

/-- What follows the receive loop. -/
def rest (A : Arduino) (s : State) (_Moji : ℕ → UInt8) (spi : SpiReply) : State :=
  let Hanoura := if Samples s then Thermocouple.sample s.Hanoura spi else s.Hanoura
  { kaisu := (wrap s).kaisu + 1
    Hanoura := Hanoura
    sent := s.sent ++ [A.dtostrf Hanoura 2 1] }

variable (A : Arduino)

/-! ## The range of the counter -/

/-- The counter is between 0 and 100, nothing has been measured, and every text sent is
that of 0 degrees. -/
structure Idle (s : State) : Prop where
  nonneg : 0 ≤ s.kaisu.toInt
  le : s.kaisu.toInt ≤ 100
  Hanoura : s.Hanoura = 0
  sent : ∀ l ∈ s.sent, l = A.dtostrf 0 2 1

/-- The counter starts idle. -/
lemma idle_setup : Idle A setup :=
  ⟨by decide, by decide, rfl, fun _ hl => absurd hl List.not_mem_nil⟩

variable {A}

/-- The counter is set back before the test sees it beyond 99. -/
lemma Idle.wrap {s : State} (h : Idle A s) :
    0 ≤ (wrap s).kaisu.toInt ∧ (wrap s).kaisu.toInt ≤ 99 := by
  unfold Satsumaimo2.wrap
  split
  · show 0 ≤ (0 : Int16).toInt ∧ (0 : Int16).toInt ≤ 99
    decide
  · next hne =>
    have hne' : s.kaisu.toInt ≠ 100 := fun heq => hne (Int16.toInt_inj.mp heq)
    have := h.nonneg
    have := h.le
    exact ⟨by omega, by omega⟩

/-- An idle counter takes no sample. -/
lemma Idle.not_samples {s : State} (h : Idle A s) : ¬ Samples s := by
  intro hs
  have h999 : (Satsumaimo2.wrap s).kaisu.toInt = 999 := congrArg Int16.toInt hs
  have := h.wrap.2
  omega

/-- A pass leaves it idle. -/
lemma Idle.rest {s : State} (h : Idle A s) (Moji : ℕ → UInt8) (spi : SpiReply) :
    Idle A (rest A s Moji spi) := by
  obtain ⟨hlo, hhi⟩ := h.wrap
  have hone : (1 : Int16).toInt = 1 := rfl
  have hsum : (Satsumaimo2.rest A s Moji spi).kaisu.toInt =
      (Satsumaimo2.wrap s).kaisu.toInt + 1 := by
    show ((Satsumaimo2.wrap s).kaisu + 1).toInt = _
    rw [Int16.toInt_add, hone, Int.bmod_eq_of_le (by omega) (by omega)]
  have hkeep : (Satsumaimo2.rest A s Moji spi).Hanoura = 0 := by
    show (if Samples s then _ else _) = _
    rw [if_neg h.not_samples, h.Hanoura]
  refine ⟨by omega, by omega, hkeep, fun l hl => ?_⟩
  have hsent : (Satsumaimo2.rest A s Moji spi).sent = s.sent ++ [A.dtostrf 0 2 1] := by
    rw [← hkeep]
    rfl
  rw [hsent, List.mem_append, List.mem_singleton] at hl
  exact hl.elim (h.sent l) id

variable (A)

/-! ## Runs -/

/-- The state before pass `n`, for the receive loop of `k`. -/
def before (k : Sketch) (p : ℕ → Pass SpiReply) (n : ℕ) : (ℕ → UInt8) × State :=
  run (k.loop (rest A)) (fun _ => 0, setup) p n

/-- Pass `n` reads the thermocouple. -/
def SamplesAt (k : Sketch) (p : ℕ → Pass SpiReply) (n : ℕ) : Prop := Samples (before A k p n).2

instance (k : Sketch) (p : ℕ → Pass SpiReply) : DecidablePred (SamplesAt A k p) :=
  fun _ => inferInstanceAs (Decidable (Samples _))

/-- How many passes have gone by at the end of pass `n` since the one that last read the
thermocouple, or since boot. -/
def age (k : Sketch) (p : ℕ → Pass SpiReply) (n : ℕ) : ℕ :=
  (latest (SamplesAt A k p) n).elim (n + 1) fun m => n - m

/-- It stays idle in every run. -/
lemma idle_before (k : Sketch) (p : ℕ → Pass SpiReply) (n : ℕ) : Idle A (before A k p n).2 :=
  run_invariant (fun _ (s : (ℕ → UInt8) × State) => Idle A s.2) (idle_setup A)
    (fun m s hs => hs.rest (k.receive (p m) s.1) (p m).env) n

/-- So no pass ever takes a sample. -/
lemma never_samples (k : Sketch) (p : ℕ → Pass SpiReply) (n : ℕ) : ¬ SamplesAt A k p n :=
  (idle_before A k p n).not_samples

/-- The age of the temperature is the age of the run. -/
lemma age_eq (k : Sketch) (p : ℕ → Pass SpiReply) (n : ℕ) : age A k p n = n + 1 := by
  have hnone := (latest_eq_none_iff (SamplesAt A k p) n).mpr fun m _ => never_samples A k p m
  rw [age, hnone, Option.elim_none]

/-- Whenever bytes arrive, the relays have sent nothing but the text of 0 degrees. -/
theorem sent_zero (k : Sketch) (ev : ℕ → Event UInt8 SpiReply) (n : ℕ) :
    ∀ l ∈ (FixedCount.before k (rest A) setup ev n).data.sent, l = A.dtostrf 0 2 1 := by
  obtain ⟨passes, hdata, -⟩ := exists_passes (k := k) (rest A) setup ev n
  rw [hdata]
  have hidle : Idle A (passes.foldl (k.loop (rest A)) (fun _ => 0, setup)).2 :=
    List.foldlRecOn (motive := fun (s : (ℕ → UInt8) × State) => Idle A s.2) passes _
      (idle_setup A) fun s hs q _ => hs.rest (k.receive q s.1) q.env
  exact hidle.sent

/-- The age passes a thousand in the 1001st pass. -/
lemma forall_age_le_iff (k : Sketch) (p : ℕ → Pass SpiReply) (N : ℕ) :
    (∀ n < N, age A k p n ≤ 1000) ↔ N ≤ 1000 := by
  simp only [age_eq]
  constructor
  · intro h
    by_contra hlong
    have := h 1000 (by omega)
    omega
  · intro h n hn
    omega

/-- A run of either relay keeps the age of its temperature within a thousand passes iff it is no
longer than a thousand passes, whatever arrives and whatever the sensor answers. -/
theorem temperature_goes_stale (p : ℕ → Pass SpiReply) (N : ℕ) :
    ((∀ n < N, age A .Satsumaimo2 p n ≤ 1000) ↔ N ≤ 1000) ∧
      ((∀ n < N, age A .Satsumaimo2Guarded p n ≤ 1000) ↔ N ≤ 1000) :=
  ⟨forall_age_le_iff A .Satsumaimo2 p N, forall_age_le_iff A .Satsumaimo2Guarded p N⟩

/-- A thousand and one passes on a silent line with a sensor at 25 degrees. -/
theorem temperature_stale_when_silent :
    ¬ ∀ (A : Arduino) (p : ℕ → Pass SpiReply) (n : ℕ),
      age A .Satsumaimo2 p n ≤ 1000 ∧ age A .Satsumaimo2Guarded p n ≤ 1000 := by
  intro h
  have hage := (h (.halfUp fun _ => 20) (fun _ => ⟨false, fun _ => 0xFF, ⟨1, 0x90, 0, 0⟩⟩) 1000).1
  rw [age_eq] at hage
  omega

end ArduinoProjects.Satsumaimo2
