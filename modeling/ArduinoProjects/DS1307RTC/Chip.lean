import ArduinoProjects.Time.RoundTrip
import ArduinoProjects.Util.Overlay
import Mathlib.Logic.Function.Iterate

/-!
# The DS1307 chip

The chip keeps the time in registers 0 to 6, two decimal digits to a byte, and counts the
seconds unless bit 7 of register 0 halts it. What it does by itself is a parameter
`tick` of the results; `KeepsTime` states what its data sheet promises for the years 2000
to 2099, and `Chip.count` is a chip that does so.
-/

namespace ArduinoProjects.DS1307RTC

open Util Time

/-- The registers of the chip. -/
abbrev Chip := ℕ → UInt8

/-- The seven registers that `read` fetches. -/
def Chip.registers (r : Chip) : Registers := ⟨r 0, r 1, r 2, r 3, r 4, r 5, r 6⟩

/-- The halt bit stops the clock. -/
def Chip.Halted (r : Chip) : Prop := r 0 &&& 0x80 ≠ 0

instance : DecidablePred Chip.Halted := fun _ => inferInstanceAs (Decidable (_ ≠ _))

/-- `DS1307RTC::dec2bcd`, the other way around. -/
def dec2bcd (num : UInt8) : UInt8 := num / 10 * 16 + num % 10

/-- The macro: the chip counts years from 2000. -/
def tmYearToY2k (Y : UInt8) : UInt8 := Y - 30

/-- Registers 1 to 6. -/
def fields (tm : tmElements_t) : List UInt8 :=
  [dec2bcd tm.Minute, dec2bcd tm.Hour, dec2bcd tm.Wday, dec2bcd tm.Day, dec2bcd tm.Month,
    dec2bcd (tmYearToY2k tm.Year)]

/-- The registers after an undisturbed write. -/
def Chip.store (r : Chip) (tm : tmElements_t) : Chip :=
  fillFrom 1 (Function.update r 0 (dec2bcd tm.Second)) (fields tm)

/-- The registers of a running clock that shows these components. -/
def registersOf (tm : tmElements_t) : Registers :=
  ⟨dec2bcd tm.Second, dec2bcd tm.Minute, dec2bcd tm.Hour, dec2bcd tm.Wday, dec2bcd tm.Day,
    dec2bcd tm.Month, dec2bcd (tmYearToY2k tm.Year)⟩

/-- The chip holds what was stored. -/
lemma registers_store (r : Chip) (tm : tmElements_t) :
    (r.store tm).registers = registersOf tm := by
  unfold Chip.store Chip.registers registersOf fields
  simp only [fillFrom_apply, Function.update_apply]
  rfl

/-- A read of a halted clock fails. -/
lemma read_of_halted {r : Chip} (h : r.Halted) (tm : tmElements_t) :
    (read (.ofRegisters r.registers) tm).1 = false := by
  rw [read_of_seven rfl rfl]
  exact decide_eq_false h

/-! ## What a read of stored components returns -/

/-- Components that the registers can hold. -/
structure Storable (tm : tmElements_t) : Prop where
  Second : tm.Second.toNat < 60
  Minute : tm.Minute.toNat < 60
  Hour : tm.Hour.toNat < 24
  Day : tm.Day.toNat < 100
  Month : tm.Month.toNat < 100
  Year : 30 ≤ tm.Year.toNat ∧ tm.Year.toNat < 130

lemma dec2bcd_eq_bcd (num : UInt8) : dec2bcd num = bcd num.toNat := by
  rw [← UInt8.toNat_inj, dec2bcd, bcd, UInt8.toNat_add, UInt8.toNat_mul, UInt8.toNat_div,
    UInt8.toNat_mod, UInt8.toNat_ofNat']
  simp only [UInt8.reduceToNat]
  omega

lemma bcd2dec_dec2bcd {num : UInt8} (h : num.toNat < 100) : bcd2dec (dec2bcd num) = num := by
  rw [← UInt8.toNat_inj, dec2bcd_eq_bcd, toNat_bcd2dec_bcd h]

/-- A read returns what the registers were given, with what they say of the weekday. -/
lemma read_registersOf {tm : tmElements_t} (h : Storable tm) (wday : UInt8)
    (stack : tmElements_t) :
    read (.ofRegisters { registersOf tm with wday := wday }) stack =
      (true, { tm with Wday := bcd2dec wday }) := by
  have hs : dec2bcd tm.Second &&& 0x7f = dec2bcd tm.Second := by
    rw [dec2bcd_eq_bcd]
    exact bcd_and_second_mask (by have := h.Second; omega)
  have hh : dec2bcd tm.Hour &&& 0x3f = dec2bcd tm.Hour := by
    rw [dec2bcd_eq_bcd]
    exact bcd_and_hour_mask (by have := h.Hour; omega)
  have hrun : dec2bcd tm.Second &&& 0x80 = 0 := by
    rw [← hs, UInt8.and_assoc]
    exact UInt8.and_zero
  have hyear : y2kYearToTm (bcd2dec (dec2bcd (tmYearToY2k tm.Year))) = tm.Year := by
    have hle : (30 : UInt8) ≤ tm.Year := UInt8.le_iff_toNat_le.mpr h.Year.1
    have hsub : (tmYearToY2k tm.Year).toNat = tm.Year.toNat - 30 := UInt8.toNat_sub_of_le _ _ hle
    rw [bcd2dec_dec2bcd (by have := h.Year.2; omega), y2kYearToTm, tmYearToY2k,
      UInt8.sub_add_cancel]
  rw [read_of_seven rfl rfl]
  refine Prod.ext (decide_eq_true hrun) ?_
  simp only [registersOf]
  rw [hs, hh, hyear, bcd2dec_dec2bcd (by have := h.Second; omega),
    bcd2dec_dec2bcd (by have := h.Minute; omega), bcd2dec_dec2bcd (by have := h.Hour; omega),
    bcd2dec_dec2bcd h.Day, bcd2dec_dec2bcd h.Month]

/-! ## The seconds from 2000 to 2099 -/

/-- A second of the years 2000 to 2099. -/
def InCentury (u : ℕ) : Prop := 946684800 ≤ u ∧ u < 4102444800

/-- Within these years 32 bits do not overflow. -/
lemma InCentury.toNat_add {u : UInt32} {n : ℕ} (h : InCentury (u.toNat + n)) :
    (u + UInt32.ofNat n).toNat = u.toNat + n := by
  have hlt := h.2
  rw [UInt32.toNat_add, UInt32.toNat_ofNat']
  omega

/-- Below 2100 the 32 bits do not run over. -/
lemma InCentury.add {u : UInt32} {n : ℕ} (h : InCentury (u.toNat + n)) :
    InCentury (u + UInt32.ofNat n).toNat := by
  rw [h.toNat_add]
  exact h

open Calendar in
/-- The century begins with 1 January 2000. -/
lemma begin_shows : Reading.Shows LEAP_YEAR ⟨⟨30, 1, 1⟩, 0, 0, 0⟩ 946684800 :=
  ⟨⟨⟨by decide, by decide⟩, by decide +kernel⟩, rfl, rfl, rfl⟩

open Calendar in
/-- The century ends before 1 January 2100. -/
lemma end_shows : Reading.Shows LEAP_YEAR ⟨⟨130, 1, 1⟩, 0, 0, 0⟩ 4102444800 :=
  ⟨⟨⟨by decide, by decide⟩, by decide +kernel⟩, rfl, rfl, rfl⟩

/-- The registers can hold the components of such a second. -/
lemma storable_breakTime {u : UInt32} (hu : InCentury u.toNat) : Storable (breakTime u) := by
  have hshows := breakTime_shows u
  have hvalid := hshows.valid
  have hday : (breakTime u).Day.toNat ≤ 31 :=
    le_trans hvalid.date.day.2 (Calendar.monthLength_bounds _ _).2
  have hmonth : (breakTime u).Month.toNat ≤ 12 := hvalid.date.month.2
  have hdate := hvalid.date.day.1
  have hfirst := hvalid.date.month.1
  have hlow : ¬ (breakTime u).reading.year < 30 := by
    intro hyear
    have hlt := (hshows.lt_iff begin_shows).mpr (List.Lex.rel hyear)
    have := hu.1
    omega
  have hhigh : ¬ 130 ≤ (breakTime u).reading.year := by
    intro hyear
    have hlt := (hshows.lt_iff end_shows).mp hu.2
    simp only [Calendar.Reading.tuple, List.cons_lt_cons_iff, List.not_lt_nil, and_false,
      or_false] at hlt
    omega
  have hyear : (breakTime u).reading.year = (breakTime u).Year.toNat := rfl
  rw [hyear] at hlow hhigh
  refine ⟨hvalid.second, hvalid.minute, hvalid.hour, ?_, ?_, ?_⟩
  · omega
  · omega
  · omega

/-- The registers of a running clock at second `u`. The register of the weekday is free: the
chip counts it on by itself, and neither library computes a time from it. -/
def Chip.ShowsTime (r : Chip) (u : UInt32) : Prop :=
  r.registers = { registersOf (breakTime u) with wday := r 3 }

lemma Chip.ShowsTime.of_eq {r : Chip} {u : UInt32}
    (h : r.registers = registersOf (breakTime u)) : r.ShowsTime u := by
  have hwday : r 3 = (registersOf (breakTime u)).wday := congrArg Registers.wday h
  rw [Chip.ShowsTime, h, hwday]

/-- Its halt bit is clear. -/
lemma Chip.ShowsTime.not_halted {r : Chip} {u : UInt32} (h : r.ShowsTime u)
    (hu : InCentury u.toNat) : ¬ r.Halted := by
  intro hhalted
  have hfalse := read_of_halted hhalted ⟨0, 0, 0, 0, 0, 0, 0⟩
  rw [h, read_registersOf (storable_breakTime hu)] at hfalse
  exact Bool.noConfusion hfalse

/-- A chip that stands still when it is halted and goes on to the next second otherwise. -/
structure KeepsTime (tick : Chip → Chip) : Prop where
  halted : ∀ r : Chip, r.Halted → tick r = r
  next : ∀ (r : Chip) (u : UInt32), InCentury u.toNat → InCentury (u.toNat + 1) →
    r.ShowsTime u → (tick r).ShowsTime (u + 1)

/-- Several seconds. -/
lemma KeepsTime.iterate {tick : Chip → Chip} (htick : KeepsTime tick) {r : Chip} {u : UInt32}
    (hu : InCentury u.toNat) (hr : r.ShowsTime u) (n : ℕ) (hn : InCentury (u.toNat + n)) :
    Chip.ShowsTime (tick^[n] r) (u + UInt32.ofNat n) := by
  induction n with
  | zero =>
    rw [show UInt32.ofNat 0 = 0 from rfl, UInt32.add_zero]
    exact hr
  | succ n ih =>
    have hcentury : InCentury (u.toNat + n) := ⟨by have := hu.1; omega, by have := hn.2; omega⟩
    rw [Function.iterate_succ_apply', UInt32.ofNat_add, ← UInt32.add_assoc]
    exact htick.next _ _ hcentury.add (by rw [hcentury.toNat_add]; exact hn) (ih hcentury)

/-- The chip itself. -/
def Chip.count (r : Chip) : Chip :=
  if r.Halted then r
  else r.store (breakTime (makeTime (read (.ofRegisters r.registers) ⟨0, 0, 0, 0, 0, 0, 0⟩).2 + 1))

/-- The chip that counts keeps the time. -/
lemma keepsTime_count : KeepsTime Chip.count where
  halted r h := if_pos h
  next r u hu _ hr := by
    have hread := read_registersOf (storable_breakTime hu) (r 3) ⟨0, 0, 0, 0, 0, 0, 0⟩
    rw [← hr] at hread
    refine .of_eq ?_
    rw [Chip.count, if_neg (hr.not_halted hu), hread, registers_store]
    dsimp only
    rw [makeTime_breakTime_with]

end ArduinoProjects.DS1307RTC
