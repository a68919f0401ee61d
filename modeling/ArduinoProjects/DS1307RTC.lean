import ArduinoProjects.Core

/-!
# `DS1307RTC::read`

The clock library the sender links: seven BCD registers over I2C into a `tmElements_t`.
Both early returns leave the caller's structure as it was; a halted clock is reported by
the return value after the structure has been filled.
-/

namespace ArduinoProjects

/-- `Year` counts from 1970. -/
structure tmElements_t where
  Second : UInt8
  Minute : UInt8
  Hour : UInt8
  Wday : UInt8
  Day : UInt8
  Month : UInt8
  Year : UInt8
deriving DecidableEq

/-- The macro: years count from 1970. -/
def tmYearToCalendar (Y : UInt8) : ℕ := Y.toNat + 1970

/-- The macro: the chip counts years from 2000. -/
def y2kYearToTm (Y : UInt8) : UInt8 := Y + 30

namespace DS1307RTC

/-- What the bus answers: the result of `Wire.endTransmission()` and the bytes that
`Wire.requestFrom` makes available. -/
structure WireReply where
  endTransmission : UInt8
  available : List UInt8
deriving DecidableEq

/-- The registers 0 to 6 of the chip. -/
structure Registers where
  sec : UInt8
  minute : UInt8
  hour : UInt8
  wday : UInt8
  day : UInt8
  month : UInt8
  year : UInt8

/-- The reply of a present chip with these register contents. -/
def WireReply.ofRegisters (r : Registers) : WireReply :=
  ⟨0, [r.sec, r.minute, r.hour, r.wday, r.day, r.month, r.year]⟩

/-- `DS1307RTC::bcd2dec`, for a byte of two decimal digits. -/
def bcd2dec (num : UInt8) : UInt8 := num / 16 * 10 + num % 16

/-- The return value and the caller's structure afterwards. -/
def read (wire : WireReply) (tm : tmElements_t) : Bool × tmElements_t :=
  if wire.endTransmission ≠ 0 then
    (false, tm)
  else
    -- `requestFrom(DS1307_CTRL_ID, tmNbrFields)`
    match wire.available with
    | sec :: minute :: hour :: wday :: day :: month :: year :: _ =>
      (decide (sec &&& 0x80 = 0),
        { Second := bcd2dec (sec &&& 0x7f)
          Minute := bcd2dec minute
          Hour := bcd2dec (hour &&& 0x3f) -- mask assumes 24hr clock
          Wday := bcd2dec wday
          Day := bcd2dec day
          Month := bcd2dec month
          Year := y2kYearToTm (bcd2dec year) })
    -- fewer than seven bytes
    | _ => (false, tm)

/-- A reply on which `read` returns before it fills the structure: a bus error, or fewer
than seven bytes. -/
def WireReply.Fails (wire : WireReply) : Prop :=
  wire.endTransmission ≠ 0 ∨ wire.available.length < 7

/-- A failed read leaves the caller's structure as it was. -/
lemma read_of_fails {wire : WireReply} (h : wire.Fails) (tm : tmElements_t) :
    read wire tm = (false, tm) := by
  unfold read
  split
  · rfl
  · next h0 =>
    split
    · -- seven bytes are more than a failing reply has
      next heq =>
      rcases h with h | h
      · exact absurd h h0
      · rw [heq] at h
        simp only [List.length_cons] at h
        omega
    · rfl

/-- Seven bytes on a good bus fill the whole structure. -/
lemma read_of_seven {wire : WireReply} {sec minute hour wday day month year : UInt8}
    {rest : List UInt8} (h0 : wire.endTransmission = 0)
    (h : wire.available = sec :: minute :: hour :: wday :: day :: month :: year :: rest)
    (tm : tmElements_t) :
    read wire tm =
      (decide (sec &&& 0x80 = 0),
        { Second := bcd2dec (sec &&& 0x7f)
          Minute := bcd2dec minute
          Hour := bcd2dec (hour &&& 0x3f)
          Wday := bcd2dec wday
          Day := bcd2dec day
          Month := bcd2dec month
          Year := y2kYearToTm (bcd2dec year) }) := by
  unfold read
  rw [if_neg (not_not.mpr h0)]
  simp only [h]

/-! ## Registers that hold a time -/

/-- A date and time the chip can hold. -/
structure DateTime where
  year : ℕ
  month : ℕ
  day : ℕ
  hour : ℕ
  minute : ℕ
  second : ℕ
  year_bounds : 2000 ≤ year ∧ year ≤ 2099
  month_bounds : 1 ≤ month ∧ month ≤ 12
  day_bounds : 1 ≤ day ∧ day ≤ 31
  hour_le : hour ≤ 23
  minute_le : minute ≤ 59
  second_le : second ≤ 59

/-- Two decimal digits in four bits each. -/
def bcd (n : ℕ) : UInt8 := UInt8.ofNat (n / 10 * 16 + n % 10)

/-- The registers hold a time in 24-hour mode. Bit 7 of the seconds is the halt bit. -/
structure Registers.Holds (r : Registers) (d : DateTime) : Prop where
  sec : r.sec &&& 0x7f = bcd d.second
  minute : r.minute = bcd d.minute
  hour : r.hour = bcd d.hour
  day : r.day = bcd d.day
  month : r.month = bcd d.month
  year : r.year = bcd (d.year - 2000)

lemma toNat_bcd {n : ℕ} (h : n < 100) : (bcd n).toNat = n / 10 * 16 + n % 10 := by
  rw [bcd, UInt8.toNat_ofNat']
  omega

lemma toNat_bcd2dec_bcd {n : ℕ} (h : n < 100) : (bcd2dec (bcd n)).toNat = n := by
  rw [bcd2dec, UInt8.toNat_add, UInt8.toNat_mul, UInt8.toNat_div, UInt8.toNat_mod, toNat_bcd h]
  simp only [UInt8.reduceToNat]
  omega

/-- A mask that covers all bits of a two-digit number loses nothing. -/
lemma bcd_and_mask {n k : ℕ} {mask : UInt8} (hmask : mask.toNat = 2 ^ k - 1) (hn : n < 100)
    (hlt : n / 10 * 16 + n % 10 < 2 ^ k) : bcd n &&& mask = bcd n := by
  rw [← UInt8.toNat_inj, UInt8.toNat_and, toNat_bcd hn, hmask, Nat.and_two_pow_sub_one_eq_mod,
    Nat.mod_eq_of_lt hlt]

lemma bcd_and_hour_mask {n : ℕ} (h : n ≤ 23) : bcd n &&& 0x3f = bcd n :=
  bcd_and_mask (show _ = 2 ^ 6 - 1 from rfl) (by omega) (by omega)

lemma bcd_and_second_mask {n : ℕ} (h : n ≤ 59) : bcd n &&& 0x7f = bcd n :=
  bcd_and_mask (show _ = 2 ^ 7 - 1 from rfl) (by omega) (by omega)

/-- The registers of a running clock at a time, on the first day of the week. -/
def DateTime.registers (d : DateTime) : Registers where
  sec := bcd d.second
  minute := bcd d.minute
  hour := bcd d.hour
  wday := 1
  day := bcd d.day
  month := bcd d.month
  year := bcd (d.year - 2000)

/-- The registers can hold every time. -/
lemma registers_holds (d : DateTime) : d.registers.Holds d :=
  ⟨bcd_and_second_mask d.second_le, rfl, rfl, rfl, rfl, rfl⟩

end DS1307RTC

/-- The structure holds this time. -/
structure tmElements_t.Shows (tm : tmElements_t) (d : DS1307RTC.DateTime) : Prop where
  Year : tmYearToCalendar tm.Year = d.year
  Month : tm.Month.toNat = d.month
  Day : tm.Day.toNat = d.day
  Hour : tm.Hour.toNat = d.hour
  Minute : tm.Minute.toNat = d.minute
  Second : tm.Second.toNat = d.second

namespace DS1307RTC

/-- What the registers hold arrives in the structure. -/
theorem read_shows {r : Registers} {d : DateTime} (h : r.Holds d) (tm : tmElements_t) :
    (read (.ofRegisters r) tm).2.Shows d := by
  have hyear := d.year_bounds
  have hy : (y2kYearToTm (bcd2dec (bcd (d.year - 2000)))).toNat = d.year - 2000 + 30 := by
    rw [y2kYearToTm, UInt8.toNat_add, toNat_bcd2dec_bcd (by omega)]
    simp only [UInt8.reduceToNat]
    omega
  rw [read_of_seven rfl rfl, h.sec, h.minute, h.hour, h.day, h.month, h.year,
    bcd_and_hour_mask d.hour_le]
  refine ⟨?_, ?_, ?_, ?_, ?_, ?_⟩
  · rw [tmYearToCalendar, hy]
    omega
  · exact toNat_bcd2dec_bcd (by have := d.month_bounds; omega)
  · exact toNat_bcd2dec_bcd (by have := d.day_bounds; omega)
  · exact toNat_bcd2dec_bcd (by have := d.hour_le; omega)
  · exact toNat_bcd2dec_bcd (by have := d.minute_le; omega)
  · exact toNat_bcd2dec_bcd (by have := d.second_le; omega)

end DS1307RTC
end ArduinoProjects
