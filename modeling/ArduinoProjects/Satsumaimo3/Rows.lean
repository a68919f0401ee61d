import ArduinoProjects.Satsumaimo3.Receive
import ArduinoProjects.Util.Stream

/-!
# The rows of the logger

`logger_exact` says what the buffer holds and what the file contains after any sequence
of polls. The second half of this file asks where the bytes of a row come from when the
serial stream is a sequence of whole records and the polls cut it anywhere. To follow a
byte, the receive loop is run once more on positions of the stream in place of bytes
(`origin`); `row_integrity_iff` says which polls a run has to have for its rows to be the
records.
-/

namespace ArduinoProjects.Satsumaimo3

open Util

/-! ## Any sequence of polls -/

section Polls

variable (c : ℕ → Chunk)

/-- The state before poll `n`. -/
def before (n : ℕ) : State := run loop setup c n

/-- The state after poll `n`. -/
def after (n : ℕ) : State := before c (n + 1)

lemma after_eq (n : ℕ) : after c n = loop (before c n) (c n) := rfl

/-- Runs of `loop` are runs of polls that find at most 40 bytes. -/
lemma before_eq_state (n : ℕ) : before c n = state (fun m => (c m).val) n := by
  induction n with
  | zero => rfl
  | succ n ih =>
    rw [before, run_succ, ← before, ih, loop_eq_pass]
    rfl

/-- The buffer is what the polls left of each other. -/
lemma before_Moji (n : ℕ) :
    (before c n).Moji = run fill (fun _ => 0) (fun m => (c m).val) n := by
  rw [before_eq_state, state_Moji]

/-- The file after `n` polls: the header, and a row of each poll that passed the gate. -/
lemma before_datalog (n : ℕ) :
    (before c n).datalog =
      header :: ((List.range n).filter fun m => gate (after c m).Moji).map
        fun m => printed (after c m).Moji := by
  simp only [after, before_eq_state]
  exact state_datalog _ n

/-- The buffer and the file after every poll of every run. -/
theorem logger_exact (n : ℕ) :
    (∀ j < 40, (after c n).Moji j =
      held (fun m => j < (c m).val.length) (fun m => (c m).val.getD j 0) 0 n) ∧
    (after c n).datalog =
      header :: ((List.range (n + 1)).filter fun m => Even (char ((after c m).Moji 13))).map
        (fun m => printed (after c m).Moji) ∧
    (34 ≤ (c n).val.length →
      printed (after c n).Moji = printed fun j => (c n).val.getD j 0) := by
  refine ⟨fun j _ => ?_, ?_, fun hlen => ?_⟩
  · rw [after, before_Moji, run_fill_succ]
  · rw [after, before_datalog]
    simp only [gate_iff]
  · apply printed_congr
    intro j hj
    rw [after_eq, loop_Moji, fill_apply, List.getD_eq_getElem _ _ (by omega),
      List.getD_eq_getElem _ _ (by omega)]

end Polls

/-! ## A stream of records, cut anywhere -/

section Records

variable (records : ℕ → Vector UInt8 34) (len : ℕ → Fin 41)

/-- How many bytes the polls before poll `m` have received. -/
def start : ℕ → ℕ
  | 0 => 0
  | m + 1 => start m + len m

/-- The positions of the bytes poll `m` receives. -/
def positions (m : ℕ) : List ℕ := List.range' (start len m) (len m)

lemma length_positions (m : ℕ) : (positions len m).length = len m := List.length_range'

/-- The bytes poll `m` receives. -/
def chunks (m : ℕ) : Chunk :=
  ⟨segment records (start len m) (len m), by
    rw [length_segment]
    exact Nat.le_of_lt_succ (len m).isLt⟩

/-- The receive loops of `n` polls, run on positions: where the byte in cell `j` comes
from, if the cell has been written. -/
def origins (n j : ℕ) : Option ℕ :=
  run (fun buf l => (receive 0 buf l).1) (fun _ => none) (fun m => (positions len m).map some) n j

/-- The same after poll `m`. -/
def origin (m j : ℕ) : Option ℕ := origins len (m + 1) j

/-- The byte poll `m` tests, if it has received one for cell 13, or else the old one, is
even. -/
def Logs (m : ℕ) : Prop :=
  Even (char (if 13 < (len m : ℕ) then concat records (start len m + 13)
    else (before (chunks records len) m).Moji 13))

instance : DecidablePred (Logs records len) := fun _ => inferInstanceAs (Decidable (Even _))

/-- Record `r` printed column by column. -/
def recordRow (r : ℕ) : List UInt8 := printed fun j => concat records (34 * r + j)

/-- The rows are those of records `rec m`, one for each logging poll; every byte of a row
comes from its place in that record; and no record has two rows. -/
structure RowsAre (rec : ℕ → ℕ) : Prop where
  datalog : ∀ n, (after (chunks records len) n).datalog =
    header :: ((List.range (n + 1)).filter fun m => Logs records len m).map
      fun m => recordRow records (rec m)
  origin : ∀ m, Logs records len m → ∀ j < 34, origin len m j = some (34 * rec m + j)
  injective : ∀ m m', Logs records len m → Logs records len m' → rec m = rec m' → m = m'

/-- Every row is the row of exactly one record, and no record gives two. -/
def RowIntegrity : Prop := ∃ rec, RowsAre records len rec

/-! ## Where the bytes come from -/

lemma origins_eq (n : ℕ) :
    origins len n = run fill (fun _ => none) (fun m => (positions len m).map some) n := by
  have hfill : (fun buf l => (receive 0 buf l).1) = (fill : (ℕ → Option ℕ) → _ → _) := by
    ext buf l
    rw [receive_eq]
    rfl
  ext1 j
  rw [origins, hfill]

/-- Where the bytes of the buffer come from, one poll later. -/
lemma origins_succ (m : ℕ) :
    origin len m = fill (origins len m) ((positions len m).map some) := by
  ext1 j
  rw [origin, origins_eq, origins_eq, run_succ]

/-- The buffer holds the bytes of the stream that `origins` names. -/
lemma before_Moji_eq (n j : ℕ) :
    (before (chunks records len) n).Moji j = (origins len n j).elim 0 (concat records) := by
  have hmap : (fun m => (chunks records len m).val) =
      fun m => ((positions len m).map some).map fun o => o.elim 0 (concat records) := by
    ext1 m
    rw [List.map_map]
    rfl
  rw [before_Moji, hmap, origins_eq]
  exact run_fill_map (fun o => o.elim 0 (concat records)) (fun _ => none) _ n j

/-- A poll overwrites the cells it reaches in order. -/
lemma origin_of_lt {m j : ℕ} (h : j < len m) : origin len m j = some (start len m + j) := by
  have hj : j < ((positions len m).map some).length := by
    rwa [List.length_map, length_positions]
  rw [origins_succ, fill_of_lt _ hj, List.getElem_map]
  simp only [positions, List.getElem_range', one_mul]

/-- The other cells keep what they had. -/
lemma origin_of_ge {m j : ℕ} (h : (len m : ℕ) ≤ j) : origin len m j = origins len m j := by
  rw [origins_succ, fill_of_ge]
  rwa [List.length_map, length_positions]

/-- Old bytes come from earlier in the stream. -/
lemma lt_start_of_origins {n j k : ℕ} (h : origins len n j = some k) : k < start len n := by
  induction n generalizing k with
  | zero => exact absurd h (Option.some_ne_none k).symm
  | succ n ih =>
    rw [start]
    rcases Nat.lt_or_ge j (len n) with hj | hj
    · have hk : some (start len n + j) = some k := (origin_of_lt len hj).symm.trans h
      rw [Option.some.injEq] at hk
      omega
    · have := ih ((origin_of_ge len hj).symm.trans h)
      omega

lemma start_mono {m n : ℕ} (h : m ≤ n) : start len m ≤ start len n := by
  induction n, h using Nat.le_induction with
  | base => exact le_rfl
  | succ n _ ih =>
    rw [start]
    omega

/-- Whether a row is logged, in terms of the buffer. -/
lemma logs_iff_gate (m : ℕ) :
    Logs records len m ↔ gate (after (chunks records len) m).Moji := by
  have hcell : (after (chunks records len) m).Moji 13 =
      if 13 < (len m : ℕ) then concat records (start len m + 13)
      else (before (chunks records len) m).Moji 13 := by
    rw [after, before_Moji_eq]
    show (origin len m 13).elim _ _ = _
    split
    · next h => rw [origin_of_lt len h, Option.elim_some]
    · next h => rw [origin_of_ge len (Nat.le_of_not_lt h), before_Moji_eq]
  rw [gate_iff, hcell, Logs]

/-- A row whose bytes are in place in record `r` is the row of record `r`. -/
lemma printed_of_origin {m r : ℕ} (h : ∀ j < 34, origin len m j = some (34 * r + j)) :
    printed (after (chunks records len) m).Moji = recordRow records r := by
  apply printed_congr
  intro j hj
  rw [after, before_Moji_eq]
  show (origin len m j).elim _ _ = _
  rw [h j hj, Option.elim_some]

/-! ## Which polls log a record -/

/-- A poll that receives nothing logs only if the poll before it does. -/
lemma logs_of_empty {m : ℕ} (h : (len (m + 1) : ℕ) = 0) (hlogs : Logs records len (m + 1)) :
    Logs records len m := by
  rw [logs_iff_gate]
  rwa [Logs, if_neg (by omega), ← gate_iff] at hlogs

/-- A poll that logs a whole record begins with it and receives all of it. -/
lemma whole_of_rowsAre {rec : ℕ → ℕ} (h : RowsAre records len rec) {m : ℕ}
    (hlogs : Logs records len m) : start len m % 34 = 0 ∧ 34 ≤ (len m : ℕ) := by
  have horigin := h.origin m hlogs
  have hfirst (hpos : 0 < (len m : ℕ)) : start len m = 34 * rec m := by
    have h0 := (origin_of_lt len hpos).symm.trans (horigin 0 (by norm_num))
    simpa using h0
  rcases Nat.eq_zero_or_pos (len m) with hzero | hpos
  · -- nothing received: the row repeats the one of the poll before
    cases m with
    | zero =>
      have h0 := horigin 0 (by norm_num)
      rw [origin_of_ge len (by omega)] at h0
      exact absurd h0 (Option.some_ne_none _).symm
    | succ m =>
      have hprev := logs_of_empty records len hzero hlogs
      have h0 := horigin 0 (by norm_num)
      rw [origin_of_ge len (by omega)] at h0
      have hsame := (h.origin m hprev 0 (by norm_num)).symm.trans h0
      have hrec : rec m = rec (m + 1) := by simpa using hsame
      exact absurd (h.injective m (m + 1) hprev hlogs hrec) (by omega)
  · refine ⟨by rw [hfirst hpos]; omega, ?_⟩
    by_contra hshort
    -- the first cell not received holds a byte from before this poll
    have hcell := horigin (len m) (by omega)
    rw [origin_of_ge len le_rfl] at hcell
    have := lt_start_of_origins len hcell
    rw [hfirst hpos] at this
    omega

/-- Polls that receive whole records log those records. -/
lemma rowsAre_of_whole (h : ∀ m, Logs records len m → start len m % 34 = 0 ∧ 34 ≤ (len m : ℕ)) :
    RowsAre records len fun m => start len m / 34 := by
  have horigin (m : ℕ) (hlogs : Logs records len m) (j : ℕ) (hj : j < 34) :
      origin len m j = some (34 * (start len m / 34) + j) := by
    obtain ⟨hstart, hlen⟩ := h m hlogs
    rw [origin_of_lt len (by omega)]
    congr 1
    omega
  have hlt {m m' : ℕ} (hlogs : Logs records len m) (hmm : m < m') :
      start len m + 34 ≤ start len m' := by
    have hmono := start_mono len (Nat.succ_le_of_lt hmm)
    have hlen := (h m hlogs).2
    rw [Nat.succ_eq_add_one, start] at hmono
    omega
  refine ⟨fun n => ?_, horigin, fun m m' hm hm' heq => ?_⟩
  · rw [after, before_datalog]
    simp only [← logs_iff_gate]
    congr 1
    apply List.map_congr_left
    intro m hm
    have hlogs : Logs records len m := by simpa using (List.mem_filter.mp hm).2
    exact printed_of_origin records len (horigin m hlogs)
  · rcases lt_trichotomy m m' with hlt' | heq' | hgt
    · have := hlt hm hlt'
      omega
    · exact heq'
    · have := hlt hm' hgt
      omega

/-- The rows of a run are records of the stream iff every poll that logs begins at a record
and receives all of it. -/
theorem row_integrity_iff :
    RowIntegrity records len ↔
      ∀ m, Logs records len m → start len m % 34 = 0 ∧ 34 ≤ (len m : ℕ) := by
  constructor
  · intro ⟨rec, hrec⟩ m hlogs
    exact whole_of_rowsAre records len hrec hlogs
  · intro h
    exact ⟨_, rowsAre_of_whole records len h⟩

/-- Noon of 1 July 2016, as the sender and the relay write it. -/
def noonRecord : Vector UInt8 34 := ⟨(text "2016 7 112 0 020.030025.039.1O24.5").toArray, by decide⟩

/-- The first poll finds nothing and logs a row of NULs. -/
theorem row_before_any_record :
    ¬ ∀ (records : ℕ → Vector UInt8 34) (len : ℕ → Fin 41), RowIntegrity records len := by
  intro h
  obtain ⟨rec, hrec⟩ := h (fun _ => noonRecord) fun m => if m = 0 then 0 else 34
  have hlogs : Logs (fun _ => noonRecord) (fun m => if m = 0 then 0 else 34) 0 := by
    unfold Logs
    decide
  have hnone : origin (fun m => if m = 0 then 0 else 34) 0 0 = none := by decide
  exact absurd (hnone.symm.trans (hrec.origin 0 hlogs 0 (by norm_num))) (Option.some_ne_none _).symm

end Records
end ArduinoProjects.Satsumaimo3
