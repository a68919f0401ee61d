import ArduinoProjects.Satsumaimo3.Receive
import ArduinoProjects.Util.Table

/-!
# `datalog.csv` as a table

The name `Time` is printed without its comma, so the header never names the columns, and the
header is printed without a line end, so the first row continues its line. `lines_file` says
what the lines of the file are after any sequence of polls, and `noRow_iff` which bytes keep
the file free of rows. `table_iff` concludes that the file is never the table it is to be, and
that its lines are equally long as long as it is the header alone.
-/

namespace ArduinoProjects.Satsumaimo3

open Util

/-! ## Runs -/

section Runs

variable (c : ℕ → List UInt8)

/-- Everything printed to `datalog.csv` before poll `n`. -/
def file (n : ℕ) : List UInt8 := (state c n).datalog.flatten

/-- No received byte is a comma or part of a line break. -/
def Plain : Prop := ∀ n, ∀ b ∈ c n, b ≠ ascii ',' ∧ b ≠ 13 ∧ b ≠ 10

variable {c}

/-- A plain run keeps commas and line breaks out of the buffer. -/
lemma plain_Moji (h : Plain c) (n j : ℕ) :
    (state c n).Moji j ≠ ascii ',' ∧ (state c n).Moji j ≠ 13 ∧ (state c n).Moji j ≠ 10 := by
  induction n with
  | zero =>
    show (0 : UInt8) ≠ ascii ',' ∧ (0 : UInt8) ≠ 13 ∧ (0 : UInt8) ≠ 10
    decide
  | succ n ih =>
    rw [state_Moji_succ]
    rcases Nat.lt_or_ge j (c n).length with hlt | hge
    · rw [fill_of_lt _ hlt]
      exact h n _ (List.getElem_mem hlt)
    · rwa [fill_of_ge _ hge]

end Runs

/-! ## The columns -/

/-- What the header is to name, column by column. -/
def names : List (List UInt8) :=
  [text "Date", text "Time", text "TEMP", text "SUIBUN", text "SUION", text "NIKKOU",
    text "DENJIBEN", text "HIKAGE"]

/-- The values of one row: the date, the time and the six measurements. -/
def Slots.record (f : Slots) : List (List UInt8) :=
  [f.Year ++ [ascii '/'] ++ f.Month ++ [ascii '/'] ++ f.Day,
    f.Hour ++ [ascii ':'] ++ f.Min ++ [ascii ':'] ++ f.Sec,
    f.Kion, f.Suibun, f.Suion, f.Nikkou, f.handan, f.hikage]

/-- The line of one row. -/
def rowLine (Moji : ℕ → UInt8) : List UInt8 :=
  layout.flatMap fun col => cut Moji col.1 col.2.1 ++ [ascii col.2.2]

lemma printed_eq (Moji : ℕ → UInt8) : printed Moji = rowLine Moji ++ lineEnd := rfl

/-- A line break in a row would be a byte of the buffer. -/
lemma isLine_rowLine {Moji : ℕ → UInt8} (h : ∀ j, Moji j ≠ 13 ∧ Moji j ≠ 10) :
    IsLine (rowLine Moji) := by
  have hseps : ∀ col ∈ layout, ascii col.2.2 ≠ 13 ∧ ascii col.2.2 ≠ 10 := by decide
  have hmem : ∀ b ∈ rowLine Moji, b ≠ 13 ∧ b ≠ 10 := by
    intro b hb
    obtain ⟨col, hcol, hb⟩ := List.mem_flatMap.mp hb
    rcases List.mem_append.mp hb with hb | hb
    · obtain ⟨k, hk, rfl⟩ := List.getElem_of_mem hb
      rw [getElem_cut]
      exact h _
    · rw [List.mem_singleton.mp hb]
      exact hseps col hcol
  exact ⟨fun hb => (hmem 13 hb).1 rfl, fun hb => (hmem 10 hb).2 rfl⟩

lemma isLine_header : IsLine header := by
  unfold IsLine
  decide +kernel

/-! ## The file -/

section File

variable {c : ℕ → List UInt8}

lemma file_of_none {n : ℕ} (h : logged c n = []) : file c n = header := by
  rw [file, state_datalog, h, List.map_nil, List.flatten_cons, List.flatten_nil, List.append_nil]

/-- The header and the first row together are the first line written. -/
lemma file_of_cons {n m : ℕ} {ms : List ℕ} (h : logged c n = m :: ms) :
    file c n = unlines ((header ++ rowLine (state c (m + 1)).Moji) ::
      ms.map fun m => rowLine (state c (m + 1)).Moji) := by
  rw [file, state_datalog, h]
  simp only [printed_eq, unlines, List.flatMap_def, List.flatten_cons, List.map_cons,
    List.map_map, List.append_assoc, Function.comp_def]

lemma isLine_row (h : Plain c) (m : ℕ) : IsLine (rowLine (state c m).Moji) :=
  isLine_rowLine fun j => (plain_Moji h m j).2

/-- The lines of the file: the first row, if there is one, stands behind the header. -/
theorem lines_file (h : Plain c) (n : ℕ) :
    lines (file c n) =
      match (logged c n).map fun m => rowLine (state c (m + 1)).Moji with
      | [] => [header]
      | row :: rows => (header ++ row) :: rows := by
  cases hlogged : logged c n with
  | nil =>
    rw [file_of_none hlogged]
    exact lines_of_isLine isLine_header (by decide +kernel)
  | cons m ms =>
    rw [file_of_cons hlogged]
    apply lines_unlines
    intro l hl
    rcases List.mem_cons.mp hl with rfl | hl
    · exact isLine_header.append (isLine_row h (m + 1))
    · obtain ⟨m', -, rfl⟩ := List.mem_map.mp hl
      exact isLine_row h (m' + 1)

/-- There are as many lines as rows, except that the header alone is a line, too. -/
lemma length_lines_file (h : Plain c) (n : ℕ) :
    (lines (file c n)).length = max 1 (logged c n).length := by
  rw [lines_file h]
  cases logged c n with
  | nil => rfl
  | cons m ms =>
    simp only [List.map_cons, List.length_cons, List.length_map]
    omega

/-- A line that begins with the header does not name the columns: its second cell is
`TimeTEMP`. -/
lemma not_names_prefix (l : List UInt8) : ¬ names <+: cells (ascii ',') (header ++ l) := by
  have hheader : header ++ l =
      text "Date" ++ ascii ',' :: (text "TimeTEMP" ++ ascii ',' :: (header.drop 14 ++ l)) := by
    have hdrop : header =
        text "Date" ++ ascii ',' :: (text "TimeTEMP" ++ ascii ',' :: header.drop 14) := by
      decide +kernel
    conv_lhs => rw [hdrop]
    simp only [List.append_assoc, List.cons_append]
  have htime : text "Time" ≠ text "TimeTEMP" := by decide +kernel
  rw [hheader, cells_append_cons (by decide +kernel), cells_append_cons (by decide +kernel), names,
    List.cons_prefix_cons, List.cons_prefix_cons]
  exact fun h => htime h.2.1

/-- The header is the beginning of the first line. -/
lemma exists_first_line (h : Plain c) (n : ℕ) :
    ∃ l rows, lines (file c n) = (header ++ l) :: rows := by
  rw [lines_file h]
  cases logged c n with
  | nil => exact ⟨[], [], by rw [List.map_nil, List.append_nil]⟩
  | cons m ms => exact ⟨_, _, rfl⟩

/-! ## Which polls log -/

lemma logsRow_of_lt {m : ℕ} (h : 13 < (c m).length) :
    LogsRow c m ↔ Even (char (c m)[13]) := by
  rw [LogsRow, gate_iff, state_Moji_succ, fill_of_lt _ h]

/-- A poll that receives no byte for cell 13 tests the one it finds. -/
lemma logsRow_of_ge {m : ℕ} (h : (c m).length ≤ 13) :
    LogsRow c m ↔ Even (char ((state c m).Moji 13)) := by
  rw [LogsRow, gate_iff, state_Moji_succ, fill_of_ge _ h]

/-- Every poll before poll `n` that receives a byte for cell 13 receives an odd one, and the
first poll receives one. -/
def OddSeconds (c : ℕ → List UInt8) (n : ℕ) : Prop :=
  ∀ m < n, if _ : 13 < (c m).length then ¬ Even (char (c m)[13]) else m ≠ 0

/-- No row is logged iff the bytes for cell 13 are odd from the first poll on. -/
theorem noRow_iff (n : ℕ) : (∀ m < n, ¬ LogsRow c m) ↔ OddSeconds c n := by
  unfold OddSeconds
  induction n with
  | zero => simp
  | succ n ih =>
    rw [Nat.forall_lt_succ_right, Nat.forall_lt_succ_right, ih]
    refine and_congr_right fun hodd => ?_
    by_cases hlt : 13 < (c n).length
    · rw [dif_pos hlt, logsRow_of_lt hlt]
    · rw [dif_neg hlt, logsRow_of_ge (Nat.le_of_not_lt hlt)]
      cases n with
      | zero =>
        have heven : Even (char ((state c 0).Moji 13)) := by
          show Even (char 0)
          decide
        simp only [heven, not_true_eq_false, ne_eq]
      | succ m =>
        -- the byte found is the one poll `m` has tested
        have hprev := ih.mpr hodd m (Nat.lt_succ_self m)
        rw [LogsRow, gate_iff] at hprev
        simp only [hprev, not_false_eq_true, ne_eq, Nat.add_one_ne_zero]

/-! ## The table -/

/-- The values of the rows logged before poll `n`. -/
def records (c : ℕ → List UInt8) (n : ℕ) : List (List (List UInt8)) :=
  (logged c n).map fun m => (slots (state c (m + 1)).Moji).record

/-- What has been written before poll `n` is a table with the named columns, a line for
each logged row. -/
def TableAt (c : ℕ → List UInt8) (n : ℕ) : Prop :=
  IsTable (ascii ',') names (records c n) (file c n)

/-- It is one header line and a line for each logged row, all of equally many cells, whatever
the header names. -/
def EvenLines (c : ℕ → List UInt8) (n : ℕ) : Prop :=
  IsTable (ascii ',') [] (records c n) (file c n)

/-- The header does not name its columns, so the file is no table. -/
lemma not_isTable_file (h : Plain c) (n : ℕ) (records : List (List (List UInt8))) :
    ¬ IsTable (ascii ',') names records (file c n) := by
  intro ⟨first, rows, hlines, hnames, _⟩
  obtain ⟨l, rows', hfirst⟩ := exists_first_line h n
  obtain ⟨rfl, -⟩ := List.cons.inj (hlines.symm.trans hfirst)
  exact not_names_prefix l hnames

/-- The lines are even iff there is no row. -/
lemma evenLines_iff_logged (h : Plain c) (n : ℕ) : EvenLines c n ↔ logged c n = [] := by
  constructor
  · intro htable
    have hlen := htable.length_lines
    rw [length_lines_file h, records, List.length_map] at hlen
    exact List.length_eq_zero_iff.mp (by omega)
  · intro hempty
    have hlines := lines_file h n
    rw [hempty] at hlines
    rw [EvenLines, records, hempty]
    exact ⟨header, [], hlines, List.nil_prefix, List.Forall₂.nil⟩

/-- The file never is the table: the header does not name the columns. Its lines are one
header and one line for each row, all of equally many cells, iff the bytes received for cell
13 are odd from the first poll on, so that no row is logged. -/
theorem table_iff (h : Plain c) (n : ℕ) :
    ¬ TableAt c n ∧ (EvenLines c n ↔ OddSeconds c n) := by
  have hnone : (∀ m < n, ¬ LogsRow c m) ↔ logged c n = [] := by
    rw [logged, List.filter_eq_nil_iff]
    simp
  rw [← noRow_iff, hnone]
  exact ⟨not_isTable_file h n _, evenLines_iff_logged h n⟩

/-- Noon of 1 July 2016 in every poll. -/
def noonPolls (_ : ℕ) : List UInt8 := text "2016 7 112 0 020.030025.039.1O24.5"

/-- The polls of noon are plain. -/
lemma noonPolls_plain : Plain noonPolls := by
  intro n
  show ∀ b ∈ text "2016 7 112 0 020.030025.039.1O24.5", _
  decide +kernel

/-- With the row of noon the lines are no longer equally long. -/
theorem table_iff_at_noon :
    ¬ TableAt noonPolls 1 ∧ (EvenLines noonPolls 1 ↔ OddSeconds noonPolls 1) :=
  table_iff noonPolls_plain 1

/-- Whenever bytes arrive, also while a poll receives, the file is not the table. -/
theorem line_never_table {ev : ℕ → Event UInt8 Unit}
    (h : ∀ n b, ev n = .arrive b → b ≠ ascii ',' ∧ b ≠ 13 ∧ b ≠ 10) (n : ℕ)
    (records : List (List (List UInt8))) :
    ¬ IsTable (ascii ',') names records (line ev n).logger.datalog.flatten := by
  obtain ⟨chunks, l, hfollows⟩ := exists_passes ev h n
  have hplain : Plain fun m => chunks.getD m [] := by
    intro m b hb
    change b ∈ chunks.getD m [] at hb
    rcases Nat.lt_or_ge m chunks.length with hlt | hge
    · rw [List.getD_eq_getElem _ _ hlt] at hb
      exact hfollows.chunks_forall _ (List.getElem_mem hlt) b hb
    · rw [List.getD_eq_default _ _ hge] at hb
      exact absurd hb List.not_mem_nil
  have hfile : (line ev n).logger.datalog.flatten =
      file (fun m => chunks.getD m []) chunks.length := by
    rw [hfollows.logger, foldl_eq_run pass setup chunks []]
    rfl
  rw [hfile]
  exact not_isTable_file hplain _ records

/-- The first row makes the header and itself one line, so a line is missing. -/
theorem header_runs_into_row : ¬ ∀ c, Plain c → ∀ n, TableAt c n := by
  intro h
  have hlen := (h noonPolls noonPolls_plain 1).length_lines
  rw [length_lines_file noonPolls_plain, records, List.length_map] at hlen
  have hone : (logged noonPolls 1).length = 1 := by decide +kernel
  omega

end File
end ArduinoProjects.Satsumaimo3
