import ArduinoProjects.Servers.Sketch
import ArduinoProjects.Util.Overlay

/-!
# What reaches the card

The text a pass of `SD_Server_Side` appends to `datalog.txt` is a table of ten columns
(`SDServerSide.record_slots`) and determines every byte of them. That of
`Arduino_Serverside2` has two columns, the year and the month; its other slots go to the
serial line. `record_determines_iff` puts both together.
-/

namespace ArduinoProjects.Servers

open Util

/-- The bytes of the buffer that the slots are filled from. -/
def slotBytes : List ℕ :=
  [6, 7, 8, 9, 11, 12, 14, 15, 17, 18, 20, 21, 23, 24, 25, 26, 27, 28, 30, 31, 32, 34, 35, 36, 37,
    1, 2, 3, 4]

/-- The bytes of `Year` and `Month`. -/
def dateBytes : List ℕ := [6, 7, 8, 9, 11, 12]

/-- The buffers differ in one of the given bytes. -/
def Differ (bytes : List ℕ) (Moji Moji' : ℕ → UInt8) : Prop := ∃ j ∈ bytes, Moji j ≠ Moji' j

instance (bytes : List ℕ) (Moji Moji' : ℕ → UInt8) : Decidable (Differ bytes Moji Moji') :=
  inferInstanceAs (Decidable (∃ j ∈ bytes, _))

/-! ## The records as tables -/

/-- The columns that `SD_Server_Side` prints. -/
def SDServerSide.layout : List (ℕ × ℕ × List UInt8) :=
  [(6, 4, text "/"), (11, 2, text "/" ++ text " "), (14, 2, text " "), (17, 2, text ":"),
    (20, 2, text ":"), (23, 2, text " " ++ text " KION:"), (25, 4, text " " ++ text " SUIBUN:"),
    (30, 3, text " " ++ text " SUION:"), (34, 4, text " " ++ text " NIKKOU:"),
    (1, 4, text " HIKAGE")]

/-- The columns that `Arduino_Serverside2` writes. -/
def ArduinoServerside2.layout : List (ℕ × ℕ × List UInt8) := [(6, 4, text "/"), (11, 2, text "/")]

lemma slots_eq (Moji : ℕ → UInt8) :
    slots Moji =
      ⟨cut Moji 6 4, cut Moji 11 2, cut Moji 14 2, cut Moji 17 2, cut Moji 20 2, cut Moji 23 2,
        cut Moji 25 4, cut Moji 30 3, cut Moji 34 4, cut Moji 1 4⟩ := rfl

lemma SDServerSide.record_slots (Moji : ℕ → UInt8) (Hanoura : ℚ) :
    SDServerSide.record (slots Moji) Hanoura =
      (text "Hello" ++ crlf) ++ (columns SDServerSide.layout Moji ++
        (printFloat Hanoura 2 ++ (text "" ++ crlf))) := by
  rw [slots_eq]
  unfold SDServerSide.record SDServerSide.layout columns
  simp only [List.flatMap_cons, List.flatMap_nil, List.append_assoc, List.nil_append]

lemma ArduinoServerside2.record_slots (Moji : ℕ → UInt8) :
    ArduinoServerside2.record (slots Moji) = columns ArduinoServerside2.layout Moji := by
  rw [slots_eq]
  unfold ArduinoServerside2.record ArduinoServerside2.layout columns
  simp only [List.flatMap_cons, List.flatMap_nil, List.append_assoc, List.append_nil]

/-- A byte that the columns of a table show makes a difference to its text. -/
lemma columns_ne_iff {layout : List (ℕ × ℕ × List UInt8)} {bytes : List ℕ}
    (hshown : ∀ j ∈ bytes, ∃ col ∈ layout, col.1 ≤ j ∧ j < col.1 + col.2.1)
    (hbytes : ∀ col ∈ layout, ∀ k < col.2.1, col.1 + k ∈ bytes) (Moji Moji' : ℕ → UInt8) :
    columns layout Moji ≠ columns layout Moji' ↔ Differ bytes Moji Moji' := by
  rw [Ne, columns_inj]
  constructor
  · intro h
    by_contra hsame
    apply h
    intro col hcol
    rw [cut_eq_iff]
    intro j hj hlt
    by_contra hne
    have hmem := hbytes col hcol (j - col.1) (by omega)
    rw [show col.1 + (j - col.1) = j by omega] at hmem
    exact hsame ⟨j, hmem, hne⟩
  · intro ⟨j, hj, hne⟩ h
    obtain ⟨col, hcol, hlo, hhi⟩ := hshown j hj
    exact hne (cut_eq_iff.mp (h col hcol) j hlo hhi)

/-- Records of the one server differ iff a text does. -/
lemma SDServerSide.record_ne_iff (Moji Moji' : ℕ → UInt8) (Hanoura : ℚ) :
    SDServerSide.record (slots Moji) Hanoura ≠ SDServerSide.record (slots Moji') Hanoura ↔
      Differ slotBytes Moji Moji' := by
  rw [SDServerSide.record_slots, SDServerSide.record_slots, Ne, List.append_cancel_left_eq,
    List.append_cancel_right_eq, ← Ne]
  exact columns_ne_iff (by decide) (by decide) Moji Moji'

/-- Records of the other one differ iff the date or time does. -/
lemma ArduinoServerside2.record_ne_iff (Moji Moji' : ℕ → UInt8) :
    ArduinoServerside2.record (slots Moji) ≠ ArduinoServerside2.record (slots Moji') ↔
      Differ dateBytes Moji Moji' := by
  rw [ArduinoServerside2.record_slots, ArduinoServerside2.record_slots]
  exact columns_ne_iff (by decide) (by decide) Moji Moji'

/-! ## Two passes -/

/-- What a pass appends to `datalog.txt`. -/
def appended (sv : Server) (s : State) (Moji : ℕ → UInt8) (env : Env) : List (List UInt8) :=
  (sv.rest s Moji env).datalog.drop s.datalog.length

lemma appended_of_opens (sv : Server) (s : State) (Moji : ℕ → UInt8) {env : Env}
    (h : env.opens) :
    appended sv s Moji env = [sv.record (slots Moji) (sv.rest s Moji env).Hanoura] := by
  have hdatalog : (sv.rest s Moji env).datalog =
      s.datalog ++ [sv.record (slots Moji) (sv.rest s Moji env).Hanoura] := if_pos h
  rw [appended, hdatalog, List.drop_left]

/-- Two passes that log the same `Hanoura` and differ in a slot append different texts iff
the server is `SD_Server_Side` or they differ in the year or the month. -/
theorem record_determines_iff (sv : Server) {s s' : State} {Moji Moji' : ℕ → UInt8}
    {env env' : Env} (hopens : env.opens) (hopens' : env'.opens)
    (hHanoura : (sv.rest s Moji env).Hanoura = (sv.rest s' Moji' env').Hanoura) :
    (Differ slotBytes Moji Moji' → appended sv s Moji env ≠ appended sv s' Moji' env') ↔
      (Differ slotBytes Moji Moji' → sv = .SDServerSide ∨ Differ dateBytes Moji Moji') := by
  apply imp_congr_right
  intro hdiffer
  rw [appended_of_opens sv s Moji hopens, appended_of_opens sv s' Moji' hopens', hHanoura, Ne,
    List.singleton_inj, ← Ne]
  cases sv with
  | SDServerSide =>
    exact iff_of_true ((SDServerSide.record_ne_iff Moji Moji' _).mpr hdiffer) (Or.inl rfl)
  | ArduinoServerside2 =>
    rw [or_iff_right (by decide)]
    exact ArduinoServerside2.record_ne_iff Moji Moji'

/-- A buffer of zeros, and one with another soil reading. -/
def dry (_ : ℕ) : UInt8 := 0x30

/-- The same but for a digit of the soil. -/
def wet : ℕ → UInt8 := Function.update dry 30 0x37

/-- A pass in which the card opens and the sensor reads 25 degrees. -/
def cardOpens : Env := ⟨⟨0x01, 0x90, 0, 0⟩, true, []⟩

/-- The first server on these two buffers. -/
theorem record_determines_iff_wet :
    (Differ slotBytes dry wet →
        appended .SDServerSide setup dry cardOpens ≠ appended .SDServerSide setup wet cardOpens) ↔
      (Differ slotBytes dry wet → Server.SDServerSide = .SDServerSide ∨ Differ dateBytes dry wet) :=
  record_determines_iff .SDServerSide rfl rfl (by decide +kernel)

/-- `Arduino_Serverside2` leaves the soil reading off the card. -/
theorem soil_not_on_card :
    ¬ ∀ (sv : Server) (s s' : State) (Moji Moji' : ℕ → UInt8) (env env' : Env),
      env.opens → env'.opens →
      (sv.rest s Moji env).Hanoura = (sv.rest s' Moji' env').Hanoura →
      Differ slotBytes Moji Moji' → appended sv s Moji env ≠ appended sv s' Moji' env' := by
  intro h
  exact h .ArduinoServerside2 setup setup dry wet cardOpens cardOpens rfl rfl
    (by decide +kernel) (by decide) (by decide +kernel)

end ArduinoProjects.Servers
