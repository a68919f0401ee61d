import ArduinoProjects.DS1307RTC.SetGet
import ArduinoProjects.RTClib.Agreement
import Mathlib.Data.Nat.Bitwise

/-!
# `RTC_DS1307`

The chip through the other library: `adjust` stores a `DateTime` in one transmission, `now`
reads one back. Both libraries read the same fields from the registers iff the hours are in 24-hour
mode (`read_eq_elements_iff`), and a clock that was adjusted is read correctly through both
(`now_adjust`).
-/

namespace ArduinoProjects.RTClib

open Util DS1307RTC

/-- `bcd2bin`: six less for every ten. -/
def bcd2bin (val : UInt8) : UInt8 := val - (6 : UInt8) * (val >>> 4)

/-- `bin2bcd`: six more for every ten. -/
def bin2bcd (val : UInt8) : UInt8 := val + 6 * (val / 10)

/-- `DateTime::year()`. -/
def DateTime.year (dt : DateTime) : UInt16 := 2000 + dt.yOff.toUInt16

/-- The constructor from the fields. -/
def DateTime.ofFields (year : UInt16) (month day hour min sec : UInt8) : DateTime where
  yOff := (if year ≥ 2000 then year - 2000 else year).toUInt8
  m := month
  d := day
  hh := hour
  mm := min
  ss := sec

/-- The `i`-th byte that `Wire.read()` returns; behind the last one it returns -1. -/
def wireRead (available : List UInt8) (i : ℕ) : UInt8 := available.getD i 0xff

namespace RTC_DS1307

/-- Whether `ss>>7` of the first register is 0. -/
def isrunning (available : List UInt8) : Bool := decide (wireRead available 0 >>> 7 = 0)

/-- The bytes of the registers 0 to 6. -/
def registerBytes (dt : DateTime) : List UInt8 :=
  [bin2bcd dt.ss, bin2bcd dt.mm, bin2bcd dt.hh, bin2bcd 0, bin2bcd dt.d, bin2bcd dt.m,
    bin2bcd (dt.year - 2000).toUInt8]

/-- The result of the transmission is not looked at. -/
def adjust (tick : Chip → Chip) (dt : DateTime) (a : Attempt) (r : Chip) : Chip :=
  transmit tick a (0 :: registerBytes dt) r

/-- `RTC_DS1307::now()`, with the bytes that the chip returns. -/
def now (available : List UInt8) : DateTime :=
  let ss := bcd2bin (wireRead available 0 &&& 0x7f)
  let mm := bcd2bin (wireRead available 1)
  let hh := bcd2bin (wireRead available 2)
  let d := bcd2bin (wireRead available 4)
  let m := bcd2bin (wireRead available 5)
  let y := (bcd2bin (wireRead available 6)).toUInt16 + 2000
  DateTime.ofFields y m d hh mm ss

end RTC_DS1307

/-! ## The same digits -/

lemma bcd2bin_eq (val : UInt8) : bcd2bin val = bcd2dec val := by
  have hlt := val.toNat_lt
  have hshift : (val >>> 4).toNat = val.toNat / 16 := by
    rw [UInt8.toNat_shiftRight, Nat.shiftRight_eq_div_pow]
    rfl
  rw [← UInt8.toNat_inj, bcd2bin, bcd2dec, UInt8.toNat_sub, UInt8.toNat_mul, hshift,
    UInt8.toNat_add, UInt8.toNat_mul, UInt8.toNat_div, UInt8.toNat_mod]
  simp only [UInt8.reduceToNat]
  omega

lemma bin2bcd_eq (val : UInt8) : bin2bcd val = dec2bcd val := by
  have hlt := val.toNat_lt
  rw [← UInt8.toNat_inj, bin2bcd, dec2bcd, UInt8.toNat_add, UInt8.toNat_mul, UInt8.toNat_div,
    UInt8.toNat_add, UInt8.toNat_mul, UInt8.toNat_div, UInt8.toNat_mod]
  simp only [UInt8.reduceToNat]
  omega

/-- `now()` adds 2000 to the year and the constructor takes it away. -/
lemma yOff_ofFields (y m d hh mm ss : UInt8) :
    DateTime.ofFields (y.toUInt16 + 2000) m d hh mm ss = ⟨y, m, d, hh, mm, ss⟩ := by
  have hlt := y.toNat_lt
  have hsum : (y.toUInt16 + 2000).toNat = y.toNat + 2000 := by
    rw [UInt16.toNat_add, UInt8.toNat_toUInt16]
    simp only [UInt16.reduceToNat]
    omega
  have hge : y.toUInt16 + 2000 ≥ 2000 := by
    rw [ge_iff_le, UInt16.le_iff_toNat_le, hsum]
    exact Nat.le_add_left _ _
  rw [DateTime.ofFields, if_pos hge, UInt16.add_sub_cancel, UInt8.toUInt8_toUInt16]

/-- `adjust` stores the year without the century. -/
lemma year_sub_2000 (dt : DateTime) : (dt.year - 2000).toUInt8 = dt.yOff := by
  rw [DateTime.year, UInt16.add_comm, UInt16.add_sub_cancel, UInt8.toUInt8_toUInt16]

/-- The components of the Time library, with some day of the week. -/
def DateTime.elements (dt : DateTime) (Wday : UInt8) : tmElements_t :=
  ⟨dt.ss, dt.mm, dt.hh, Wday, dt.d, dt.m, y2kYearToTm dt.yOff⟩

namespace RTC_DS1307

/-- What `now()` makes of the registers. -/
lemma now_ofRegisters (r : Registers) :
    now (WireReply.ofRegisters r).available =
      ⟨bcd2dec r.year, bcd2dec r.month, bcd2dec r.day, bcd2dec r.hour, bcd2dec r.minute,
        bcd2dec (r.sec &&& 0x7f)⟩ := by
  simp only [now, yOff_ofFields, bcd2bin_eq]
  rfl

/-- The mask of the Time library changes the hours iff they are not in 24-hour mode. -/
lemma bcd2dec_and_iff (hour : UInt8) : bcd2dec (hour &&& 0x3f) = bcd2dec hour ↔ hour < 0x40 := by
  have hlt := hour.toNat_lt
  have hmask : (hour &&& 0x3f).toNat = hour.toNat % 64 := by
    rw [UInt8.toNat_and]
    exact Nat.and_two_pow_sub_one_eq_mod hour.toNat 6
  rw [← UInt8.toNat_inj, UInt8.lt_iff_toNat_lt, bcd2dec, bcd2dec, UInt8.toNat_add,
    UInt8.toNat_mul, UInt8.toNat_div, UInt8.toNat_mod, UInt8.toNat_add, UInt8.toNat_mul,
    UInt8.toNat_div, UInt8.toNat_mod, hmask]
  simp only [UInt8.reduceToNat]
  omega

lemma read_eq_elements_iff (r : Registers) (stack : tmElements_t) :
    (read (.ofRegisters r) stack).2 =
      (now (WireReply.ofRegisters r).available).elements (bcd2dec r.wday) ↔ r.hour < 0x40 := by
  rw [now_ofRegisters, read_of_seven rfl rfl, DateTime.elements, ← bcd2dec_and_iff]
  simp only [tmElements_t.mk.injEq, true_and, and_true]

/-! ## A clock that keeps the time -/

/-- `isrunning` reports the halt bit. -/
lemma isrunning_iff (r : Chip) :
    isrunning (WireReply.ofRegisters r.registers).available = true ↔ ¬ r.Halted := by
  have hlt := (r 0).toNat_lt
  have hshift : (r 0 >>> 7).toNat = (r 0).toNat / 128 := by
    rw [UInt8.toNat_shiftRight, Nat.shiftRight_eq_div_pow]
    rfl
  have hbit : (r 0 &&& 0x80).toNat = (r 0).toNat / 128 * 128 := by
    rw [UInt8.toNat_and]
    show (r 0).toNat &&& 2 ^ 7 = _
    rw [Nat.and_two_pow, Nat.toNat_testBit]
    omega
  unfold isrunning Chip.Halted
  rw [decide_eq_true_iff, not_not, ← UInt8.toNat_inj, ← UInt8.toNat_inj, hbit]
  show (r 0 >>> 7).toNat = 0 ↔ _ = 0
  omega

end RTC_DS1307

lemma elements_inj {dt dt' : DateTime} {Wday : UInt8} (h : dt.elements Wday = dt'.elements Wday) :
    dt = dt' := by
  obtain ⟨yOff, m, d, hh, mm, ss⟩ := dt
  obtain ⟨yOff', m', d', hh', mm', ss'⟩ := dt'
  simp only [DateTime.elements, y2kYearToTm, tmElements_t.mk.injEq, true_and,
    UInt8.add_left_inj] at h
  obtain ⟨rfl, rfl, rfl, rfl, rfl, rfl⟩ := h
  rfl

/-- Components with the same reading. -/
lemma eq_elements {dt : DateTime} {tm : tmElements_t} (hyear : dt.yOff.toNat < 100)
    (h : tm.reading = dt.since1970) : tm = dt.elements tm.Wday := by
  have hnat : (y2kYearToTm dt.yOff).toNat = 30 + dt.yOff.toNat := by
    rw [y2kYearToTm, UInt8.toNat_add]
    simp only [UInt8.reduceToNat]
    omega
  simp only [tmElements_t.reading, DateTime.since1970, DateTime.reading, ← hnat,
    Calendar.Reading.mk.injEq, Calendar.Date.mk.injEq, UInt8.toNat_inj] at h
  obtain ⟨⟨hYear, hMonth, hDay⟩, hHour, hMinute, hSecond⟩ := h
  rw [DateTime.elements, ← hYear, ← hMonth, ← hDay, ← hHour, ← hMinute, ← hSecond]

/-- A date and time of the years 2000 to 2099. -/
structure DateTime.InCentury (dt : DateTime) : Prop where
  valid : dt.reading.Valid leap
  year : dt.yOff.toNat < 100

open Calendar in
/-- The century ends before 1 January 2100. -/
lemma end_shows : Reading.Shows leap ⟨⟨100, 1, 1⟩, 0, 0, 0⟩ 3155760000 :=
  ⟨⟨⟨by decide, by decide⟩, by decide +kernel⟩, rfl, rfl, rfl⟩

namespace DateTime.InCentury

variable {dt : DateTime}

/-- A `DateTime` of the century shows its seconds. -/
lemma shows (h : dt.InCentury) :
    dt.reading.Shows leap dt.seconds ∧ dt.seconds < 3155760000 := by
  obtain ⟨n, hn⟩ := h.valid.exists_shows
  have hlt : n < 3155760000 := (hn.lt_iff end_shows).mpr (List.Lex.rel h.year)
  rw [seconds_of_shows hn (by omega)]
  exact ⟨hn, hlt⟩

lemma toNat_unixtime (h : dt.InCentury) : dt.unixtime.toNat = dt.seconds + 946684800 := by
  have hlt := h.shows.2
  rw [unixtime_eq, UInt32.toNat_add, UInt32.toNat_ofNat', toNat_SECONDS_FROM_1970_TO_2000]
  omega

/-- In the century of both libraries. -/
lemma unixtime (h : dt.InCentury) : DS1307RTC.InCentury dt.unixtime.toNat := by
  have hlt := h.shows.2
  rw [h.toNat_unixtime]
  exact ⟨by omega, by omega⟩

/-- The Time library finds the same components. -/
lemma breakTime_unixtime (h : dt.InCentury) :
    Time.breakTime dt.unixtime = dt.elements (Time.breakTime dt.unixtime).Wday := by
  obtain ⟨hshows, hlt⟩ := h.shows
  have hcentury := h.unixtime
  have hsince := since1970_shows hcentury.1 (by have := hcentury.2; omega)
  rw [ofTime_unixtime hshows (by omega)] at hsince
  exact eq_elements h.year ((Time.breakTime_shows dt.unixtime).reading_unique hsince)

end DateTime.InCentury

namespace RTC_DS1307

/-- The registers of a `DateTime` are those of its second. -/
lemma showsTime_registerBytes {dt : DateTime} (h : dt.InCentury) (r : Chip) :
    Chip.ShowsTime (fillFrom 0 r (registerBytes dt)) dt.unixtime := by
  have hyear : tmYearToY2k (y2kYearToTm dt.yOff) = dt.yOff := UInt8.add_sub_cancel _ _
  rw [Chip.ShowsTime, h.breakTime_unixtime, registersOf, DateTime.elements, hyear]
  unfold Chip.registers registerBytes
  simp only [fillFrom_apply, bin2bcd_eq, year_sub_2000]
  rfl

/-- A transmission that gets through while the chip does not count between its bytes. Storing
the seconds begins a new second, which the rest of the transmission does not outlast. -/
structure Complete (a : Attempt) : Prop where
  taken : 8 ≤ a.taken
  still : ∀ i, 2 ≤ i → i ≤ 7 → a.gaps i = 0

/-- A chip that was adjusted shows the time it was adjusted to, and the seconds since. -/
lemma showsTime_adjust {tick : Chip → Chip} (htick : KeepsTime tick) {dt : DateTime}
    (h : dt.InCentury) {a : Attempt} (ha : Complete a) (r : Chip) (n : ℕ)
    (hn : DS1307RTC.InCentury (dt.unixtime.toNat + (a.gaps 8 + n))) :
    Chip.ShowsTime (tick^[n] (adjust tick dt a r))
      (dt.unixtime + UInt32.ofNat (a.gaps 8 + n)) := by
  have hall : (0 :: registerBytes dt).take a.taken = 0 :: registerBytes dt :=
    List.take_of_length_le ha.taken
  have hstored : adjust tick dt a r = tick^[a.gaps 8]
      (fillFrom 0 (tick^[a.gaps 1] (tick^[a.gaps 0] r)) (registerBytes dt)) := by
    unfold adjust transmit
    rw [hall]
    dsimp only
    rw [registerBytes, deliver_cons, deliver_of_still]
    · rfl
    · intro i hi hlt
      exact ha.still i hi (Nat.le_of_lt_succ hlt)
  rw [hstored, ← Function.iterate_add_apply, Nat.add_comm n]
  exact htick.iterate h.unixtime (showsTime_registerBytes h _) _ hn

/-- A clock that shows a time is in 24-hour mode, so the library reads that time. -/
lemma now_of_showsTime {r : Chip} {u : UInt32} (hu : DS1307RTC.InCentury u.toNat)
    (hr : r.ShowsTime u) :
    now (WireReply.ofRegisters r.registers).available = DateTime.ofTime u := by
  have hread := read_registersOf (storable_breakTime hu) (r 3) ⟨0, 0, 0, 0, 0, 0, 0⟩
  have hstorable := storable_breakTime hu
  have hreading := (Time.breakTime_shows u).reading_unique
    (since1970_shows hu.1 (by have := hu.2; omega))
  have hyear : (Time.breakTime u).Year.toNat = 30 + (DateTime.ofTime u).yOff.toNat :=
    congrArg (·.year) hreading
  have helements := eq_elements (by have := hstorable.Year.2; omega) hreading
  have hhour : r.registers.hour < 0x40 := by
    have hlt := hstorable.Hour
    rw [show r.registers.hour = dec2bcd (Time.breakTime u).Hour from congrArg Registers.hour hr,
      dec2bcd_eq_bcd, UInt8.lt_iff_toNat_lt, toNat_bcd (by omega)]
    show _ < 64
    omega
  rw [← hr] at hread
  have hnow := ((read_eq_elements_iff r.registers _).mpr hhour).symm.trans
    (congrArg Prod.snd hread)
  refine elements_inj (hnow.trans ?_)
  show { Time.breakTime u with Wday := bcd2dec (r 3) } = _
  rw [helements]
  rfl

/-- A clock that was adjusted shows `n` seconds later, through either library, the time it was
adjusted to and the seconds that have passed since the last byte. -/
theorem now_adjust {tick : Chip → Chip} (htick : KeepsTime tick) {dt : DateTime}
    (h : dt.InCentury) {a : Attempt} (ha : Complete a) (r : Chip) {n : ℕ}
    (hn : DS1307RTC.InCentury (dt.unixtime.toNat + (a.gaps 8 + n))) (stack : tmElements_t) :
    (now (WireReply.ofRegisters
        (Chip.registers (tick^[n] (adjust tick dt a r)))).available).reading.Shows leap
          (dt.seconds + (a.gaps 8 + n)) ∧
      get (.ofRegisters (Chip.registers (tick^[n] (adjust tick dt a r)))) stack =
        dt.unixtime + UInt32.ofNat (a.gaps 8 + n) := by
  have hr := showsTime_adjust htick h ha r n hn
  refine ⟨?_, get_of_registers hn.add hr stack⟩
  have hshows := ofTime_shows (dt.unixtime + UInt32.ofNat (a.gaps 8 + n))
  rw [toNat_sub_2000 hn.add.1, hn.toNat_add, h.toNat_unixtime] at hshows
  rw [now_of_showsTime hn.add hr]
  have hsecond : dt.seconds + 946684800 + (a.gaps 8 + n) - 946684800 =
      dt.seconds + (a.gaps 8 + n) := by omega
  rwa [hsecond] at hshows

/-- One hour after noon of 1 July 2016, on a chip that was halted. -/
theorem now_adjust_noon :
    (now (WireReply.ofRegisters (Chip.registers (Chip.count^[3600]
      (adjust Chip.count ⟨16, 7, 1, 12, 0, 0⟩ undisturbed
        fun _ => 0x80)))).available).reading.Shows leap
          (DateTime.seconds ⟨16, 7, 1, 12, 0, 0⟩ + (undisturbed.gaps 8 + 3600)) ∧
      get (.ofRegisters (Chip.registers (Chip.count^[3600]
        (adjust Chip.count ⟨16, 7, 1, 12, 0, 0⟩ undisturbed fun _ => 0x80))))
          ⟨0, 0, 0, 0, 0, 0, 0⟩ =
        DateTime.unixtime ⟨16, 7, 1, 12, 0, 0⟩ + UInt32.ofNat (undisturbed.gaps 8 + 3600) :=
  now_adjust (n := 3600) keepsTime_count
    (show DateTime.InCentury ⟨16, 7, 1, 12, 0, 0⟩ from
      ⟨⟨⟨by decide, by decide⟩, by decide, by decide, by decide⟩, by decide⟩)
    ⟨by decide, fun _ _ _ => rfl⟩ _ ⟨by decide +kernel, by decide +kernel⟩ ⟨0, 0, 0, 0, 0, 0, 0⟩

end RTC_DS1307

end ArduinoProjects.RTClib
