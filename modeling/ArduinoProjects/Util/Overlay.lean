import ArduinoProjects.Util.History
import Mathlib.Data.List.Basic
import Mathlib.Data.List.GetD
import Mathlib.Logic.Function.Basic

/-!
# Buffers that are refilled from cell 0

A receiver that restarts at index 0 for every batch overwrites a prefix of its buffer
and leaves the rest, so the buffer is a layering of prefixes of earlier batches.
`run_fill_succ` says which batch a cell comes from: the latest one that reaches it.
The buffer is a total function on `ℕ`; a batch of length `n` touches cells `0 .. n - 1`.
-/

namespace ArduinoProjects.Util

variable {α β : Type*}

/-- Write a batch into the buffer from cell `i` on. -/
def fillFrom : ℕ → (ℕ → α) → List α → (ℕ → α)
  | _, buf, [] => buf
  | i, buf, b :: l => fillFrom (i + 1) (Function.update buf i b) l

/-- Write a batch into the buffer from cell 0 on. -/
def fill (buf : ℕ → α) (l : List α) : ℕ → α := fillFrom 0 buf l

lemma fillFrom_apply (i : ℕ) (buf : ℕ → α) (l : List α) (j : ℕ) :
    fillFrom i buf l j = if i ≤ j then l.getD (j - i) (buf j) else buf j := by
  induction l generalizing i buf with
  | nil => simp [fillFrom]
  | cons b l ih =>
    rw [fillFrom, ih]
    -- behind the cell just written, at it, or in front of it
    rcases Nat.lt_trichotomy i j with hlt | rfl | hgt
    · have hsub : j - i = j - (i + 1) + 1 := by omega
      rw [if_pos (show i + 1 ≤ j from hlt), if_pos hlt.le, hsub, List.getD_cons_succ,
        Function.update_of_ne (by omega)]
    · rw [if_neg (by omega), if_pos le_rfl, Nat.sub_self, List.getD_cons_zero,
        Function.update_self]
    · rw [if_neg (by omega), if_neg (by omega), Function.update_of_ne (by omega)]

/-- A cell takes the batch's byte where the batch reaches it. -/
lemma fill_apply (buf : ℕ → α) (l : List α) (j : ℕ) : fill buf l j = l.getD j (buf j) := by
  rw [fill, fillFrom_apply, if_pos (Nat.zero_le j), Nat.sub_zero]

lemma fill_of_lt (buf : ℕ → α) {l : List α} {j : ℕ} (h : j < l.length) :
    fill buf l j = l[j] := by
  rw [fill_apply, List.getD_eq_getElem _ _ h]

lemma fill_of_ge (buf : ℕ → α) {l : List α} {j : ℕ} (h : l.length ≤ j) :
    fill buf l j = buf j := by
  rw [fill_apply, List.getD_eq_default _ _ h]

/-- One more byte goes into the cell behind the batch. -/
lemma fill_concat (buf : ℕ → α) (l : List α) (b : α) :
    fill buf (l ++ [b]) = Function.update (fill buf l) l.length b := by
  ext j
  rw [fill_apply, Function.update_apply, fill_apply]
  -- in front of the new byte, at it, or behind it
  rcases Nat.lt_trichotomy j l.length with hlt | rfl | hgt
  · rw [if_neg (by omega), List.getD_append _ _ _ _ hlt]
  · rw [if_pos rfl, List.getD_append_right _ _ _ _ le_rfl, Nat.sub_self]
    rfl
  · have hlen : (l ++ [b]).length ≤ j := by
      rw [List.length_append, List.length_singleton]
      omega
    rw [if_neg (by omega), List.getD_eq_default _ _ hlen, List.getD_eq_default _ _ hgt.le]

/-- Filling looks at no byte: it commutes with any relabelling of them. -/
lemma fill_map (f : α → β) (buf : ℕ → α) (l : List α) (j : ℕ) :
    fill (fun k => f (buf k)) (l.map f) j = f (fill buf l j) := by
  rcases Nat.lt_or_ge j l.length with h | h
  · rw [fill_of_lt _ (by simpa using h), fill_of_lt _ h, List.getElem_map]
  · rw [fill_of_ge _ (by simpa using h), fill_of_ge _ h]

/-- After batch `n`, cell `j` holds byte `j` of the latest batch longer than `j`. -/
theorem run_fill_succ (buf : ℕ → α) (c : ℕ → List α) (n j : ℕ) :
    run fill buf c (n + 1) j =
      held (fun m => j < (c m).length) (fun m => (c m).getD j (buf j)) (buf j) n := by
  apply eq_held (fun n => run fill buf c n j)
  intro n
  rw [run_succ]
  -- batch `n` reaches the cell, or the cell keeps what it had
  split
  · next h => rw [fill_of_lt _ h, List.getD_eq_getElem _ _ h]
  · next h => rw [fill_of_ge _ (Nat.le_of_not_lt h)]

/-- A run of refills commutes with any relabelling. -/
lemma run_fill_map (f : α → β) (buf : ℕ → α) (c : ℕ → List α) (n j : ℕ) :
    run fill (fun k => f (buf k)) (fun m => (c m).map f) n j = f (run fill buf c n j) := by
  induction n generalizing j with
  | zero => rfl
  | succ n ih =>
    have hbuf : run fill (fun k => f (buf k)) (fun m => (c m).map f) n =
        fun k => f (run fill buf c n k) := funext ih
    rw [run_succ, run_succ, hbuf, fill_map]

/-! ## Cutting a buffer -/

/-- The `w` cells of a buffer from `o` on. -/
def cut (buf : ℕ → α) : ℕ → ℕ → List α
  | _, 0 => []
  | o, w + 1 => buf o :: cut buf (o + 1) w

@[simp] lemma length_cut (buf : ℕ → α) (o w : ℕ) : (cut buf o w).length = w := by
  induction w generalizing o with
  | zero => rfl
  | succ w ih => rw [cut, List.length_cons, ih]

@[simp] lemma getElem_cut (buf : ℕ → α) (o w k : ℕ) (h : k < (cut buf o w).length) :
    (cut buf o w)[k] = buf (o + k) := by
  induction w generalizing o k with
  | zero => exact absurd h (Nat.not_lt_zero k)
  | succ w ih =>
    cases k with
    | zero => rfl
    | succ k =>
      have hstep := ih (o + 1) k (by simpa using h)
      rw [Nat.add_assoc, Nat.add_comm 1 k] at hstep
      exact hstep

lemma cut_congr {buf buf' : ℕ → α} {o w : ℕ} (h : ∀ j, o ≤ j → j < o + w → buf j = buf' j) :
    cut buf o w = cut buf' o w := by
  induction w generalizing o with
  | zero => rfl
  | succ w ih =>
    rw [cut, cut, h o le_rfl (by omega), ih (fun j hj hlt => h j (by omega) (by omega))]

lemma cut_append (buf : ℕ → α) (o w w' : ℕ) :
    cut buf o (w + w') = cut buf o w ++ cut buf (o + w) w' := by
  induction w generalizing o with
  | zero => rw [Nat.zero_add, cut, List.nil_append, Nat.add_zero]
  | succ w ih =>
    rw [Nat.succ_add, cut, cut, ih, List.cons_append, Nat.add_assoc o 1 w, Nat.add_comm 1 w]

/-- Two buffers agree in a stretch iff they agree in its cells. -/
lemma cut_eq_iff {buf buf' : ℕ → α} {o w : ℕ} :
    cut buf o w = cut buf' o w ↔ ∀ j, o ≤ j → j < o + w → buf j = buf' j := by
  constructor
  · intro h j hj hlt
    have hk : j - o < (cut buf o w).length := by
      rw [length_cut]
      omega
    have hcell := List.getElem_of_eq h hk
    rw [getElem_cut, getElem_cut] at hcell
    rwa [show o + (j - o) = j by omega] at hcell
  · exact cut_congr

/-- A buffer written column by column: where each column begins, how many cells it takes,
and the text behind it. -/
def columns (layout : List (ℕ × ℕ × List α)) (buf : ℕ → α) : List α :=
  layout.flatMap fun col => cut buf col.1 col.2.1 ++ col.2.2

/-- A text of columns determines each of them. -/
theorem columns_inj (layout : List (ℕ × ℕ × List α)) (buf buf' : ℕ → α) :
    columns layout buf = columns layout buf' ↔
      ∀ col ∈ layout, cut buf col.1 col.2.1 = cut buf' col.1 col.2.1 := by
  constructor
  · intro h
    induction layout with
    | nil => exact fun _ hcol => absurd hcol List.not_mem_nil
    | cons col layout ih =>
      rw [columns, columns, List.flatMap_cons, List.flatMap_cons, List.append_assoc,
        List.append_assoc] at h
      obtain ⟨hhead, htail⟩ := List.append_inj h (by rw [length_cut, length_cut])
      intro col' hcol'
      rcases List.mem_cons.mp hcol' with rfl | hcol'
      · exact hhead
      · exact ih (List.append_cancel_left htail) col' hcol'
  · intro h
    rw [columns, columns]
    apply List.flatMap_congr
    intro col hcol
    rw [h col hcol]

/-- The text lies in the buffer from cell `o` on. -/
def Lies (buf : ℕ → α) (o : ℕ) (l : List α) : Prop := cut buf o l.length = l

instance [DecidableEq α] (buf : ℕ → α) (o : ℕ) (l : List α) : Decidable (Lies buf o l) :=
  inferInstanceAs (Decidable (_ = _))

/-- Two texts one after the other lie where each of them does. -/
lemma lies_append_iff (buf : ℕ → α) (o : ℕ) (a b : List α) :
    Lies buf o (a ++ b) ↔ Lies buf o a ∧ Lies buf (o + a.length) b := by
  rw [Lies, Lies, Lies, List.length_append, cut_append]
  constructor
  · intro h
    exact List.append_inj h (length_cut ..)
  · intro ⟨ha, hb⟩
    rw [ha, hb]

/-- A batch lies in the buffer it has been written into. -/
lemma lies_fill (buf : ℕ → α) (l : List α) : Lies (fill buf l) 0 l := by
  apply List.ext_getElem
  · rw [length_cut]
  · intro k hk hk'
    rw [getElem_cut, Nat.zero_add, fill_of_lt _ hk']

end ArduinoProjects.Util
