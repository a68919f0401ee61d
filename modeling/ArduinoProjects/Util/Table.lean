import Mathlib.Data.List.Basic
import Mathlib.Data.List.Forall2
import Mathlib.Data.UInt

/-!
# Tables in text files

A text file as a list of lines, and a line as a list of cells between separators. `lines`
reads back what was written line by line (`lines_unlines`), and `cells` cuts a line at its
separators (`cells_append_cons`). `IsTable` is the shape of a file that begins with the names
of its columns; without names it only asks for lines of equally many cells.
-/

namespace ArduinoProjects.Util

/-! ## Lines -/

/-- Carriage return and line feed. -/
def lineEnd : List UInt8 := [13, 10]

/-- A line without the carriage return before its line feed. -/
def stripReturn (l : List UInt8) : List UInt8 :=
  if l.getLast? = some 13 then l.dropLast else l

/-- The lines of a file. A line feed at the end of the file begins no further line. -/
def lines (t : List UInt8) : List (List UInt8) :=
  let pieces := t.splitOn 10
  (if pieces.getLast? = some [] then pieces.dropLast else pieces).map stripReturn

/-- The file that has been written line by line. -/
def unlines (ls : List (List UInt8)) : List UInt8 := ls.flatMap (· ++ lineEnd)

/-- The text contains no line end. -/
def IsLine (l : List UInt8) : Prop := 13 ∉ l ∧ 10 ∉ l

lemma IsLine.append {l l' : List UInt8} (h : IsLine l) (h' : IsLine l') : IsLine (l ++ l') :=
  ⟨fun hb => (List.mem_append.mp hb).elim h.1 h'.1,
    fun hb => (List.mem_append.mp hb).elim h.2 h'.2⟩

lemma stripReturn_append (l : List UInt8) : stripReturn (l ++ [13]) = l := by
  rw [stripReturn, if_pos List.getLast?_concat, List.dropLast_concat]

lemma splitOn_unlines {ls : List (List UInt8)} (h : ∀ l ∈ ls, IsLine l) :
    (unlines ls).splitOn 10 = ls.map (· ++ [13]) ++ [[]] := by
  induction ls with
  | nil => rfl
  | cons l ls ih =>
    have hl : 10 ∉ l ++ [13] := by
      rw [List.mem_append, List.mem_singleton]
      exact fun hmem => hmem.elim (h l (List.mem_cons_self ..)).2 (by decide)
    have hcons : unlines (l :: ls) = (l ++ [13]) ++ 10 :: unlines ls := by
      rw [unlines, List.flatMap_cons, lineEnd, List.append_assoc, List.append_assoc]
      rfl
    rw [hcons, List.splitOn_append_cons_self_of_not_mem hl,
      ih fun l' hl' => h l' (List.mem_cons_of_mem l hl'), List.map_cons, List.cons_append]

/-- What was written line by line is read back. -/
theorem lines_unlines {ls : List (List UInt8)} (h : ∀ l ∈ ls, IsLine l) :
    lines (unlines ls) = ls := by
  rw [lines, splitOn_unlines h]
  simp only [List.getLast?_concat, if_true, List.dropLast_concat, List.map_map]
  calc ls.map (stripReturn ∘ (· ++ [13]))
      = ls.map id := List.map_congr_left fun l _ => stripReturn_append l
    _ = ls := List.map_id ls

/-- A text without a line end is one line. -/
lemma lines_of_isLine {t : List UInt8} (h : IsLine t) (hne : t ≠ []) : lines t = [t] := by
  have hstrip : stripReturn t = t := by
    rw [stripReturn, if_neg]
    intro hlast
    exact h.1 (List.mem_of_getLast? hlast)
  rw [lines, List.splitOn_eq_singleton h.2]
  simp [hne, hstrip]

/-! ## Cells -/

/-- The cells of a line. -/
def cells (sep : UInt8) (l : List UInt8) : List (List UInt8) := l.splitOn sep

/-- The cell in front of the first separator is the first cell. -/
lemma cells_append_cons {sep : UInt8} {c : List UInt8} (h : sep ∉ c) (l : List UInt8) :
    cells sep (c ++ sep :: l) = c :: cells sep l :=
  List.splitOn_append_cons_self_of_not_mem h l

/-- A file that is a table: a header line that has the names of the columns, and one line
for each record that has the values of the record, in their order; all lines have the same
number of cells. -/
def IsTable (sep : UInt8) (names : List (List UInt8)) (records : List (List (List UInt8)))
    (t : List UInt8) : Prop :=
  ∃ header rows, lines t = header :: rows ∧ names <+: cells sep header ∧
    List.Forall₂ (fun row record => (cells sep row).length = (cells sep header).length ∧
      record <+: cells sep row) rows records

/-- A table has one line more than it has records. -/
lemma IsTable.length_lines {sep : UInt8} {names : List (List UInt8)}
    {records : List (List (List UInt8))} {t : List UInt8} (h : IsTable sep names records t) :
    (lines t).length = records.length + 1 := by
  obtain ⟨header, rows, hlines, -, hrows⟩ := h
  rw [hlines, List.length_cons, hrows.length_eq]

end ArduinoProjects.Util
