import ArduinoProjects.Core
import ArduinoProjects.Util.Overlay

/-!
# Satsumaimo3: the logger

One poll of `loop()` empties the serial port into `Moji`, starting at index 0, cuts the
buffer into twelve slots, and appends a row to `datalog.csv` if the last digit of the
second is even. The buffer is not cleared between polls. `Moji` is a total function: the
cells from 40 on stand for what follows the array in memory, and the slots are as large as
the bytes stored in them.
-/

namespace ArduinoProjects.Satsumaimo3

open Util

/-- The bytes one poll finds waiting. -/
abbrev Chunk := { l : List UInt8 // l.length ≤ 40 }

/-- The buffer, the file and the serial port. -/
structure State where
  Moji : ℕ → UInt8
  /-- what each session with the open `datalog.csv` has printed, in order -/
  datalog : List (List UInt8)
  /-- what has been printed to `Serial` -/
  serial : List UInt8

/-- The prints of `setup()` to `datalog.csv`. -/
def header : List UInt8 :=
  text "Date," ++ text "Time" ++ text "TEMP," ++ text "SUIBUN," ++ text "SUION," ++
    text "NIKKOU," ++ text "DENJIBEN," ++ text "HIKAGE"

/-- `setup()` with a card that answers. -/
def setup : State where
  Moji := fun _ => 0
  datalog := [header]
  serial := text "card initialized." ++ crlf

/-- `while (Serial.available())`: store, print what was stored, next index. The bytes need
not be bytes, since the loop does not look at them. -/
def receive {α : Type*} (i : ℕ) (Moji : ℕ → α) : List α → (ℕ → α) × List α
  | [] => (Moji, [])
  | b :: waiting =>
    let Moji := Function.update Moji i b
    let r := receive (i + 1) Moji waiting
    (r.1, Moji i :: r.2)

/-- The slots of one poll. -/
structure Slots where
  Year : List UInt8
  Month : List UInt8
  Day : List UInt8
  Hour : List UInt8
  Min : List UInt8
  Sec : List UInt8
  Kion : List UInt8
  Suibun : List UInt8
  Suion : List UInt8
  Nikkou : List UInt8
  handan : List UInt8
  hikage : List UInt8

/-- The texts that are cut from the buffer. -/
def slots (Moji : ℕ → UInt8) : Slots where
  Year := [Moji 0, Moji 1, Moji 2, Moji 3]
  Month := [Moji 4, Moji 5]
  Day := [Moji 6, Moji 7]
  Hour := [Moji 8, Moji 9]
  Min := [Moji 10, Moji 11]
  Sec := [Moji 12, Moji 13]
  Kion := [Moji 14, Moji 15, Moji 16, Moji 17]
  Suibun := [Moji 18, Moji 19, Moji 20]
  Suion := [Moji 21, Moji 22, Moji 23, Moji 24]
  Nikkou := [Moji 25, Moji 26, Moji 27, Moji 28]
  handan := [Moji 29]
  hikage := [Moji 30, Moji 31, Moji 32, Moji 33]

/-- `Byou1 % 2 == 0` for `Byou1 = Sec[1]`. -/
def gate (Moji : ℕ → UInt8) : Prop := (char (Moji 13)).tmod 2 = 0

instance (Moji : ℕ → UInt8) : Decidable (gate Moji) := inferInstanceAs (Decidable (_ = _))

/-- The prints of `loop()` to `datalog.csv`. -/
def Slots.row (f : Slots) : List UInt8 :=
  f.Year ++ [ascii '/'] ++ f.Month ++ [ascii '/'] ++ f.Day ++ [ascii ','] ++
    f.Hour ++ [ascii ':'] ++ f.Min ++ [ascii ':'] ++ f.Sec ++ [ascii ','] ++
    f.Kion ++ [ascii ','] ++ f.Suibun ++ [ascii ','] ++ f.Suion ++ [ascii ','] ++
    f.Nikkou ++ [ascii ','] ++ f.handan ++ [ascii ','] ++ f.hikage ++ [ascii ','] ++ crlf

/-- One poll. -/
def loop (s : State) (c : Chunk) : State :=
  let r := receive 0 s.Moji c.val
  -- the gate and the row look at the whole buffer, received or left over
  { Moji := r.1
    datalog := if gate r.1 then s.datalog ++ [(slots r.1).row] else s.datalog
    serial := s.serial ++ r.2 }

/-! ## The receive loop -/

/-- The loop fills the buffer and echoes what it received. -/
lemma receive_eq {α : Type*} (i : ℕ) (Moji : ℕ → α) (l : List α) :
    receive i Moji l = (fillFrom i Moji l, l) := by
  induction l generalizing i Moji with
  | nil => rfl
  | cons b l ih =>
    rw [receive, ih, fillFrom, Function.update_self]

@[simp] lemma loop_Moji (s : State) (c : Chunk) : (loop s c).Moji = fill s.Moji c.val := by
  rw [loop, receive_eq]
  rfl

/-- A row is appended iff the gate is open. -/
@[simp] lemma loop_datalog (s : State) (c : Chunk) :
    (loop s c).datalog =
      if gate (loop s c).Moji then s.datalog ++ [(slots (loop s c).Moji).row]
      else s.datalog := rfl

/-- What a poll that logs a row has logged. -/
lemma loop_logs_iff (s : State) (c : Chunk) (row : List UInt8) :
    (loop s c).datalog = s.datalog ++ [row] ↔
      gate (fill s.Moji c.val) ∧ row = (slots (fill s.Moji c.val)).row := by
  rw [loop_datalog, loop_Moji]
  split
  · next hgate => simp only [List.append_cancel_left_eq, List.cons.injEq, and_true, hgate,
      true_and, eq_comm]
  · next hgate => simp only [hgate, false_and, List.self_eq_append_right, List.cons_ne_self]

/-- A character is even iff its remainder is zero, whatever its sign. -/
lemma gate_iff (Moji : ℕ → UInt8) : gate Moji ↔ Even (char (Moji 13)) := by
  rw [gate, Int.even_iff, Int.tmod_eq_emod]
  split <;> omega

/-! ## The row as a table of columns -/

/-- The columns of a row: where each begins in the buffer, how many bytes it takes, and
the character printed behind it. -/
def layout : List (ℕ × ℕ × Char) :=
  [(0, 4, '/'), (4, 2, '/'), (6, 2, ','), (8, 2, ':'), (10, 2, ':'), (12, 2, ','),
    (14, 4, ','), (18, 3, ','), (21, 4, ','), (25, 4, ','), (29, 1, ','), (30, 4, ',')]

/-- A buffer printed column by column. -/
def printed (Moji : ℕ → UInt8) : List UInt8 :=
  (layout.flatMap fun col => cut Moji col.1 col.2.1 ++ [ascii col.2.2]) ++ crlf

lemma slots_eq (Moji : ℕ → UInt8) :
    slots Moji =
      ⟨cut Moji 0 4, cut Moji 4 2, cut Moji 6 2, cut Moji 8 2, cut Moji 10 2, cut Moji 12 2,
        cut Moji 14 4, cut Moji 18 3, cut Moji 21 4, cut Moji 25 4, cut Moji 29 1,
        cut Moji 30 4⟩ := rfl

/-- The prints of the sketch follow the table. -/
lemma row_slots (Moji : ℕ → UInt8) : (slots Moji).row = printed Moji := by
  rw [slots_eq]
  unfold Slots.row printed layout
  simp only [List.flatMap_cons, List.flatMap_nil, List.append_assoc, List.nil_append]

/-- A row shows the first 34 bytes and nothing else. -/
lemma printed_congr {Moji Moji' : ℕ → UInt8} (h : ∀ j < 34, Moji j = Moji' j) :
    printed Moji = printed Moji' := by
  have hcut {o w : ℕ} (hle : o + w ≤ 34) : cut Moji o w = cut Moji' o w :=
    cut_congr fun j _ hj => h j (by omega)
  have hcols : ∀ col ∈ layout, col.1 + col.2.1 ≤ 34 := by decide
  rw [printed, printed]
  congr 1
  apply List.flatMap_congr
  intro col hcol
  rw [hcut (hcols col hcol)]

end ArduinoProjects.Satsumaimo3
