import ArduinoProjects.Satsumaimo1.Valves
import ArduinoProjects.Satsumaimo1.Frame
import ArduinoProjects.Satsumaimo3.Sketch

/-!
# Rows sort by time

The first nineteen characters of a row are the date and time that the clock held when the
frame was sent (`take_row`): the registers reach the row through `RTC.read`, the sender's
columns and the logger's slots. Since the columns are padded with blanks, which sort
before the digits, such rows sort as the times do.
-/

namespace ArduinoProjects

open Util

/-- The components of a time, in the order in which times compare. -/
def DS1307RTC.DateTime.tuple (d : DS1307RTC.DateTime) : List ℕ :=
  [d.year, d.month, d.day, d.hour, d.minute, d.second]

/-- A time as the rows show it. -/
def DS1307RTC.DateTime.stamp (d : DS1307RTC.DateTime) : List UInt8 :=
  column 4 d.year ++ (ascii '/' :: (column 2 d.month ++ (ascii '/' :: (column 2 d.day ++
    (ascii ',' :: (column 2 d.hour ++ (ascii ':' :: (column 2 d.minute ++
      (ascii ':' :: column 2 d.second)))))))))

namespace Telemetry

open DS1307RTC Satsumaimo1 Satsumaimo3

/-! ## Stamps -/

/-- The parts of a date fit into their columns. -/
lemma widths (d : DateTime) : TimeWidths d.year d.month d.day d.hour d.minute d.second := by
  apply timeWidths
  · have := d.year_bounds
    omega
  · have := d.month_bounds
    omega
  · have := d.day_bounds
    omega
  · have := d.hour_le
    omega
  · have := d.minute_le
    omega
  · have := d.second_le
    omega

lemma length_stamp (d : DateTime) : d.stamp.length = 19 := by
  have hw := widths d
  simp only [DateTime.stamp, List.length_append, List.length_cons, hw.year, hw.month, hw.day,
    hw.hour, hw.minute, hw.second]

/-- Stamps sort as the times in them. -/
lemma sorts_stamp (d d' : DateTime) : Sorts d.stamp d'.stamp d.tuple d'.tuple := by
  have two {x x' : ℕ} (h : x ≤ 59) (h' : x' ≤ 59) {a b : List UInt8} {l l' : List ℕ}
      (hs : Sorts a b l l') : Sorts (column 2 x ++ a) (column 2 x' ++ b) (x :: l) (x' :: l') :=
    hs.column_append (by omega) (by omega)
  -- column by column, from the year on
  apply Sorts.column_append (by have := d.year_bounds; omega) (by have := d'.year_bounds; omega)
  apply Sorts.sep
  apply two (by have := d.month_bounds; omega) (by have := d'.month_bounds; omega)
  apply Sorts.sep
  apply two (by have := d.day_bounds; omega) (by have := d'.day_bounds; omega)
  apply Sorts.sep
  apply two (by have := d.hour_le; omega) (by have := d'.hour_le; omega)
  apply Sorts.sep
  apply two d.minute_le d'.minute_le
  apply Sorts.sep
  simpa only [List.append_nil] using two d.second_le d'.second_le (sorts_nil [])

/-- The measurements of a row, with what is printed around them. -/
def measurements (Moji : ℕ → UInt8) : List UInt8 :=
  ascii ',' :: (cut Moji 14 4 ++ (ascii ',' :: (cut Moji 18 3 ++ (ascii ',' :: (cut Moji 21 4 ++
    (ascii ',' :: (cut Moji 25 4 ++ (ascii ',' :: (cut Moji 29 1 ++ (ascii ',' ::
      (cut Moji 30 4 ++ (ascii ',' :: crlf))))))))))))

/-- The time columns of a row, and what follows them. -/
lemma row_slots_eq (Moji : ℕ → UInt8) :
    (slots Moji).row =
      cut Moji 0 4 ++ (ascii '/' :: (cut Moji 4 2 ++ (ascii '/' :: (cut Moji 6 2 ++
        (ascii ',' :: (cut Moji 8 2 ++ (ascii ':' :: (cut Moji 10 2 ++
          (ascii ':' :: (cut Moji 12 2 ++ measurements Moji)))))))))) := by
  rw [slots_eq]
  unfold Slots.row measurements
  simp only [List.append_assoc, List.cons_append, List.nil_append]

/-- The last of the first nineteen characters of a row is the byte that the gate tests. -/
lemma getLast_take_row (Moji : ℕ → UInt8) :
    ((slots Moji).row.take 19).getLast? = some (Moji 13) := by
  have hrow : (slots Moji).row =
      [Moji 0, Moji 1, Moji 2, Moji 3, ascii '/', Moji 4, Moji 5, ascii '/', Moji 6, Moji 7,
        ascii ',', Moji 8, Moji 9, ascii ':', Moji 10, Moji 11, ascii ':', Moji 12, Moji 13] ++
        measurements Moji := by
    rw [row_slots_eq]
    rfl
  rw [hrow]
  rfl

/-- A buffer whose row begins with a stamp passes the gate iff its second is even. -/
lemma gate_iff_even_second {Moji : ℕ → UInt8} {d : DateTime}
    (h : (slots Moji).row.take 19 = d.stamp) : gate Moji ↔ Even d.second := by
  obtain ⟨l, hl⟩ := column_eq_concat 2 d.second
  have hlast : d.stamp.getLast? = some (digit (d.second % 10)) := by
    rw [DateTime.stamp, hl]
    simp only [← List.cons_append, ← List.append_assoc, List.getLast?_concat]
  have hbyte : Moji 13 = digit (d.second % 10) := by
    rw [← h, getLast_take_row, Option.some.injEq] at hlast
    exact hlast
  rw [gate_iff, hbyte, even_char_digit_iff (Nat.mod_lt _ (by norm_num)), Nat.even_iff,
    Nat.even_iff]
  omega

/-- The first nineteen characters of a row are the time the clock held. -/
theorem take_row (A : Arduino) {r : Registers} {d : DateTime} (hr : r.Holds d)
    (s : Satsumaimo1.State) {p : Pass} (hp : p.wire = .ofRegisters r) {Moji : ℕ → UInt8}
    (hMoji : Lies Moji 0 (Satsumaimo1.loop A s p).2) :
    (slots Moji).row.take 19 = d.stamp := by
  have hshows : p.tm.Shows d := by
    rw [Pass.tm, hp]
    exact read_shows hr p.stack
  have hsend : (Satsumaimo1.loop A s p).2 = (frame A p.tm _ _ _ _ _).send := rfl
  rw [hsend, frame, send_fieldsOf, lies_append_iff] at hMoji
  -- the first fourteen bytes are the time the registers hold
  have htime := hMoji.1
  rw [timeText, hshows.Year, hshows.Month, hshows.Day, hshows.Hour, hshows.Minute,
    hshows.Second] at htime
  simp only [List.append_assoc, lies_append_iff] at htime
  have hw := widths d
  simp only [Lies, hw.year, hw.month, hw.day, hw.hour, hw.minute, hw.second,
    Nat.reduceAdd] at htime
  obtain ⟨hY, hM, hD, hH, hm, hs⟩ := htime
  have hrow : (slots Moji).row = d.stamp ++ measurements Moji := by
    rw [row_slots_eq, hY, hM, hD, hH, hm, hs, DateTime.stamp]
    simp only [List.append_assoc, List.cons_append]
  rw [hrow]
  exact List.take_left' (length_stamp d)

/-- Two rows compare by their first nineteen characters as the times of their frames do. -/
theorem rows_sort_by_time (A : Arduino) {r r' : Registers} {d d' : DateTime} (hr : r.Holds d)
    (hr' : r'.Holds d') (s s' : Satsumaimo1.State) {p p' : Pass} (hp : p.wire = .ofRegisters r)
    (hp' : p'.wire = .ofRegisters r') {Moji Moji' : ℕ → UInt8}
    (hMoji : Lies Moji 0 (Satsumaimo1.loop A s p).2)
    (hMoji' : Lies Moji' 0 (Satsumaimo1.loop A s' p').2) :
    ((slots Moji).row.take 19 < (slots Moji').row.take 19 ↔ d.tuple < d'.tuple) ∧
    ((slots Moji).row.take 19 = (slots Moji').row.take 19 ↔ d.tuple = d'.tuple) := by
  rw [take_row A hr s hp hMoji, take_row A hr' s' hp' hMoji']
  exact sorts_stamp d d'

/-- An hour of 1 July 2016. -/
def firstOfJuly (hour : Fin 24) : DateTime where
  year := 2016
  month := 7
  day := 1
  hour := hour
  minute := 0
  second := 0
  year_bounds := by omega
  month_bounds := by omega
  day_bounds := by omega
  hour_le := by omega
  minute_le := by omega
  second_le := by omega

/-- A first pass at such an hour. -/
def passOfJuly (hour : Fin 24) : Pass :=
  { passAt 0 0 0 0 with wire := .ofRegisters (firstOfJuly hour).registers }

/-- The logger's buffer after the frame of that pass. -/
def bufferOfJuly (hour : Fin 24) : ℕ → UInt8 :=
  fill (fun _ => 0) (Satsumaimo1.loop (.halfUp fun _ => 20) Satsumaimo1.setup (passOfJuly hour)).2

/-- Nine o'clock, with its blank, sorts before ten o'clock. -/
theorem nine_before_ten :
    (slots (bufferOfJuly 9)).row.take 19 < (slots (bufferOfJuly 10)).row.take 19 :=
  (rows_sort_by_time (.halfUp fun _ => 20) (registers_holds (firstOfJuly 9))
    (registers_holds (firstOfJuly 10)) Satsumaimo1.setup Satsumaimo1.setup rfl rfl
    (lies_fill (fun _ => 0) _) (lies_fill (fun _ => 0) _)).1.mpr (by decide)

end Telemetry
end ArduinoProjects
