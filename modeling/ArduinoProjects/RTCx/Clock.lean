import ArduinoProjects.DS1307RTC.SetGet
import ArduinoProjects.RTCx.Gmtime

/-!
# `RTCx::readClock` and `RTCx::setClock`

The third library does not rely on the chip to hold its registers still while they are read. It
reads the seconds once more behind the other registers and begins again if they have changed.
So it returns the time of one instant, that of the first pass during which the chip did not
count, even if the chip may count between any two bytes (`map_readClock`), and a clock that was
set is read correctly by this library and by the first one (`readClock_setClock`).
-/

namespace ArduinoProjects.RTCx

open Util Util.Calendar DS1307RTC

/-- `RTCx::bcdToDec`. -/
def bcdToDec (b : UInt8) : UInt8 := (b >>> 4) * 10 + b % 16

/-- `RTCx::decToBcd`. -/
def decToBcd (b : UInt8) : UInt8 := (b / 10) <<< 4 + b % 10

/-- The fields that the bytes of the registers 0 to 6 mean. -/
def fieldsOf (b : ℕ → UInt8) : tm where
  tm_sec := (bcdToDec (b 0 &&& 0x7f)).toNat
  tm_min := (bcdToDec (b 1 &&& 0x7f)).toNat
  tm_hour :=
    if b 2 &&& 0x40 ≠ 0 then
      -- twelve hour mode
      (bcdToDec (b 2 &&& 0x1f)).toNat + if b 2 &&& 0x20 ≠ 0 then 12 else 0
    else (bcdToDec (b 2 &&& 0x3f)).toNat
  tm_wday := (b 3 &&& 0x03).toNat - 1 -- clock uses [1..7]
  tm_mday := (bcdToDec (b 4 &&& 0x3f)).toNat
  tm_mon := (bcdToDec (b 5 &&& 0x1f)).toNat - 1 -- clock uses [1..12]
  tm_year := (bcdToDec (b 6)).toNat + 100 -- assume 21st century
  tm_yday := -1

/-- One turn of the loop. The chip has counted `counts i` times when byte `i` is read, and
`counts 7` times when the seconds are read again. -/
def pass (tick : Chip → Chip) (r : Chip) (counts : ℕ → ℕ) : Option tm :=
  let tm := fieldsOf fun i => (tick^[counts i] r) i
  if tm.tm_sec = (bcdToDec ((tick^[counts 7] r) 0 &&& 0x7f)).toNat then some tm else none

/-- The loop, over the passes that it has time for. -/
def readClock (tick : Chip → Chip) (r : Chip) (passes : List (ℕ → ℕ)) : Option tm :=
  passes.findSome? (pass tick r)

/-- The bytes of the registers 1 to 6. -/
def setClockBytes (tm : tm) : List UInt8 :=
  [decToBcd (UInt8.ofInt tm.tm_min), decToBcd (UInt8.ofInt tm.tm_hour), -- forces 24h mode
    decToBcd (UInt8.ofInt (tm.tm_wday + 1)), decToBcd (UInt8.ofInt tm.tm_mday),
    decToBcd (UInt8.ofInt (tm.tm_mon + 1)), decToBcd (UInt8.ofInt (tm.tm_year.tmod 100))]

/-- The chip counts `gaps 0` times before its first register is read, and `gaps i` times before
the `i`-th byte is stored. -/
def setClock (tick : Chip → Chip) (tm : tm) (gaps : ℕ → ℕ) (r : Chip) : Chip :=
  -- stopClock()
  let r := tick^[gaps 0] r
  let s := r 0 ||| 0x80
  let r := Function.update (tick^[gaps 1] r) 0 s
  -- write everything *except* the second
  let r := deliver tick (fun i => gaps (i + 2)) 0 1 (setClockBytes tm) r
  -- startClock(decToBcd(tm->tm_sec))
  Function.update r 0 (decToBcd (UInt8.ofInt tm.tm_sec) &&& 0x7f)

/-! ## The digits -/

lemma bcdToDec_eq (b : UInt8) : bcdToDec b = bcd2dec b := by
  have hshift : b >>> 4 = b / 16 := by
    rw [← UInt8.toNat_inj, UInt8.toNat_shiftRight, UInt8.toNat_div, Nat.shiftRight_eq_div_pow]
    rfl
  rw [bcdToDec, bcd2dec, hshift]

lemma decToBcd_eq (b : UInt8) : decToBcd b = dec2bcd b := by
  have hlt := b.toNat_lt
  have hshift : (b / 10) <<< 4 = b / 10 * 16 := by
    rw [← UInt8.toNat_inj, UInt8.toNat_shiftLeft, UInt8.toNat_mul, Nat.shiftLeft_eq]
    rfl
  rw [decToBcd, dec2bcd, hshift]

/-- A mask that covers the two digits of a number. -/
lemma toNat_masked {num mask : UInt8} {k : ℕ} (hmask : mask.toNat = 2 ^ k - 1)
    (hnum : num.toNat < 100) (hlt : num.toNat / 10 * 16 + num.toNat % 10 < 2 ^ k) :
    (bcdToDec (dec2bcd num &&& mask)).toNat = num.toNat := by
  rw [bcdToDec_eq, dec2bcd_eq_bcd, bcd_and_mask hmask hnum hlt, toNat_bcd2dec_bcd hnum]

/-! ## Reading -/

/-- What is read of a running clock at second `u`. -/
lemma fieldsOf_showsTime {r : Chip} {u : UInt32} (hu : InCentury u.toNat) (hr : r.ShowsTime u) :
    (fieldsOf r).tm_sec = (u.toNat % 60 : ℕ) ∧
      (fieldsOf r).since1970 = (Time.breakTime u).reading := by
  have hstorable := storable_breakTime hu
  have hvalid := (Time.breakTime_shows u).valid
  have hsecond := (Time.breakTime_shows u).second
  unfold Chip.ShowsTime at hr
  generalize Time.breakTime u = e at hr hstorable hvalid hsecond ⊢
  have hdays := hvalid.date.day.2
  have hlen := (monthLength_bounds (Time.LEAP_YEAR e.reading.year) (e.reading.month - 1)).2
  have hmonth := hvalid.date.month
  simp only [tmElements_t.reading] at hdays hlen hmonth hsecond
  have hmin := hstorable.Minute
  have hhour := hstorable.Hour
  have hsec := hstorable.Second
  -- the bytes of the registers
  have h0 : r 0 = dec2bcd e.Second := congrArg Registers.sec hr
  have h1 : r 1 = dec2bcd e.Minute := congrArg Registers.minute hr
  have h2 : r 2 = dec2bcd e.Hour := congrArg Registers.hour hr
  have h4 : r 4 = dec2bcd e.Day := congrArg Registers.day hr
  have h5 : r 5 = dec2bcd e.Month := congrArg Registers.month hr
  have h6 : r 6 = dec2bcd (tmYearToY2k e.Year) := congrArg Registers.year hr
  have hmode : dec2bcd e.Hour &&& 0x40 = 0 := by
    rw [dec2bcd_eq_bcd, ← bcd_and_hour_mask (by omega), UInt8.and_assoc]
    exact UInt8.and_zero
  have hyear : (bcdToDec (dec2bcd (tmYearToY2k e.Year))).toNat = e.Year.toNat - 30 := by
    have hle : (30 : UInt8) ≤ e.Year := UInt8.le_iff_toNat_le.mpr hstorable.Year.1
    have hsub : (tmYearToY2k e.Year).toNat = e.Year.toNat - 30 := UInt8.toNat_sub_of_le _ _ hle
    have := hstorable.Year.2
    rw [bcdToDec_eq, bcd2dec_dec2bcd (by omega), hsub]
  have hread : fieldsOf r = ⟨e.Second.toNat, e.Minute.toNat, e.Hour.toNat, e.Day.toNat,
      e.Month.toNat - 1, (e.Year.toNat - 30 : ℕ) + 100, (r 3 &&& 0x03).toNat - 1, -1⟩ := by
    unfold fieldsOf
    rw [h0, h1, h2, h4, h5, h6, hyear, if_neg (not_not.mpr hmode),
      toNat_masked (k := 7) rfl (by omega) (by omega),
      toNat_masked (k := 7) rfl (by omega) (by omega),
      toNat_masked (k := 6) rfl (by omega) (by omega),
      toNat_masked (k := 6) rfl (by omega) (by omega),
      toNat_masked (k := 5) rfl (by omega) (by omega)]
  have hbounds := hstorable.Year
  rw [hread]
  refine ⟨congrArg Nat.cast hsecond, ?_⟩
  simp only [tm.since1970, tm.reading, tmElements_t.reading, Reading.mk.injEq, Date.mk.injEq]
  refine ⟨⟨?_, ?_, ?_⟩, ?_, ?_, ?_⟩ <;> omega

/-- The fields depend on the seven bytes only. -/
lemma fieldsOf_congr {b b' : ℕ → UInt8} (h : ∀ i ≤ 6, b i = b' i) : fieldsOf b = fieldsOf b' := by
  unfold fieldsOf
  rw [h 0 (by norm_num), h 1 (by norm_num), h 2 (by norm_num), h 3 (by norm_num),
    h 4 (by norm_num), h 5 (by norm_num), h 6 (by norm_num)]

section
variable {tick : Chip → Chip} (htick : KeepsTime tick) {r : Chip} {u : UInt32}
  (hu : InCentury u.toNat) (hr : r.ShowsTime u)
include htick hu hr

/-- A pass of less than a minute succeeds iff the chip did not count during it. -/
lemma map_pass {counts : ℕ → ℕ} (hmono : Monotone counts) (hfast : counts 7 < counts 0 + 60)
    (hend : InCentury (u.toNat + counts 7)) :
    (pass tick r counts).map tm.since1970 =
      if counts 7 = counts 0 then some (Time.breakTime (u + UInt32.ofNat (counts 0))).reading
      else none := by
  have hle (i : ℕ) : counts 0 ≤ counts i := hmono (Nat.zero_le i)
  have hbegin : InCentury (u.toNat + counts 0) :=
    ⟨by have := hu.1; omega, by have := hend.2; have := hle 7; omega⟩
  obtain ⟨hsec, hreading⟩ := fieldsOf_showsTime hbegin.add (htick.iterate hu hr _ hbegin)
  obtain ⟨hsec', -⟩ := fieldsOf_showsTime hend.add (htick.iterate hu hr _ hend)
  rw [hbegin.toNat_add] at hsec
  rw [hend.toNat_add] at hsec'
  -- within a minute the seconds are the same only in the same second
  have hsame : ((u.toNat + counts 0) % 60 : ℕ) = ((u.toNat + counts 7) % 60 : ℕ) ↔
      counts 7 = counts 0 := by
    have := hle 7
    omega
  have hfirst : (fieldsOf fun i => (tick^[counts i] r) i).tm_sec =
      (fieldsOf (tick^[counts 0] r)).tm_sec := rfl
  have hlast : ((bcdToDec ((tick^[counts 7] r) 0 &&& 0x7f)).toNat : ℤ) =
      (fieldsOf (tick^[counts 7] r)).tm_sec := rfl
  unfold pass
  dsimp only
  rw [hfirst, hlast, hsec, hsec']
  simp only [Nat.cast_inj, hsame]
  split
  · next heq =>
    have hall (i : ℕ) (hi : i ≤ 7) : counts i = counts 0 :=
      le_antisymm (heq ▸ hmono hi) (hle i)
    have hstill : (fieldsOf fun i => (tick^[counts i] r) i) = fieldsOf (tick^[counts 0] r) := by
      apply fieldsOf_congr
      intro i hi
      rw [hall i (by omega)]
    rw [hstill, Option.map_some, hreading]
  · rfl

/-- The loop returns the time of the first pass during which the chip did not count. -/
lemma map_readClock {passes : List (ℕ → ℕ)} (hmono : ∀ counts ∈ passes, Monotone counts)
    (hfast : ∀ counts ∈ passes, counts 7 < counts 0 + 60)
    (hend : ∀ counts ∈ passes, InCentury (u.toNat + counts 7)) :
    (readClock tick r passes).map tm.since1970 =
      (passes.find? fun counts => counts 7 = counts 0).map fun counts =>
        (Time.breakTime (u + UInt32.ofNat (counts 0))).reading := by
  induction passes with
  | nil => rfl
  | cons counts passes ih =>
    rw [List.forall_mem_cons] at hmono hfast hend
    have hpass := map_pass htick hu hr hmono.1 hfast.1 hend.1
    have hrest := ih hmono.2 hfast.2 hend.2
    unfold readClock at hrest ⊢
    rw [List.findSome?_cons]
    split at hpass
    · next hstill =>
      obtain ⟨x, hx, hreading⟩ := Option.map_eq_some_iff.mp hpass
      rw [hx, List.find?_cons_of_pos (by simpa using hstill)]
      exact congrArg some hreading
    · next hcounts =>
      rw [Option.map_eq_none_iff.mp hpass, List.find?_cons_of_neg (by simpa using hcounts)]
      exact hrest

end

/-! ## Setting -/

/-- The fields of a time as this library counts them. -/
structure Names (x : tm) (t : UInt32) : Prop where
  sec : x.tm_sec = (Time.breakTime t).Second.toNat
  min : x.tm_min = (Time.breakTime t).Minute.toNat
  hour : x.tm_hour = (Time.breakTime t).Hour.toNat
  mday : x.tm_mday = (Time.breakTime t).Day.toNat
  mon : x.tm_mon = (Time.breakTime t).Month.toNat - 1
  year : x.tm_year = (Time.breakTime t).Year.toNat + 70

/-- A clock that was set shows the time. -/
lemma showsTime_setClock {tick : Chip → Chip} (htick : KeepsTime tick) {x : tm} {t : UInt32}
    (ht : InCentury t.toNat) (hx : Names x t) (gaps : ℕ → ℕ) (r : Chip) :
    Chip.ShowsTime (setClock tick x gaps r) t := by
  have hstorable := storable_breakTime ht
  have hstopped (r₁ r₀ : Chip) : Chip.Halted (Function.update r₁ 0 (r₀ 0 ||| 0x80)) := by
    unfold Chip.Halted
    rw [Function.update_self]
    intro h
    have hbits := congrArg UInt8.toBitVec h
    rw [UInt8.toBitVec_and, UInt8.toBitVec_or, BitVec.and_or_distrib_right] at hbits
    exact absurd (BitVec.or_eq_zero_iff.mp hbits).2 (by decide)
  have hstored := (deliver_of_frozen (fun i => gaps (i + 2)) htick.halted
    (fun r j b => halted_update b) 0 (le_refl 1) (setClockBytes x)
    (hstopped (tick^[gaps 1] (tick^[gaps 0] r)) (tick^[gaps 0] r))).1
  -- the bytes
  have hbyte (n : UInt8) : UInt8.ofInt n.toNat = n := by
    have hlt := n.toNat_lt
    rw [← UInt8.toNat_inj, UInt8.ofInt, UInt8.toNat_ofNat']
    omega
  have hmonth : UInt8.ofInt (x.tm_mon + 1) = (Time.breakTime t).Month := by
    rw [hx.mon, sub_add_cancel, hbyte]
  have hyear : UInt8.ofInt (x.tm_year.tmod 100) = tmYearToY2k (Time.breakTime t).Year := by
    obtain ⟨hlow, hhigh⟩ := hstorable.Year
    have hle : (30 : UInt8) ≤ (Time.breakTime t).Year := UInt8.le_iff_toNat_le.mpr hlow
    have hsub : (tmYearToY2k (Time.breakTime t).Year).toNat = (Time.breakTime t).Year.toNat - 30 :=
      UInt8.toNat_sub_of_le _ _ hle
    rw [hx.year, Int.tmod_eq_emod_of_nonneg (by omega), ← UInt8.toNat_inj, hsub, UInt8.ofInt,
      UInt8.toNat_ofNat']
    omega
  have hsec : dec2bcd (Time.breakTime t).Second &&& 0x7f = dec2bcd (Time.breakTime t).Second := by
    have hlt := hstorable.Second
    rw [dec2bcd_eq_bcd, bcd_and_second_mask (by omega)]
  unfold setClock
  dsimp only
  rw [hstored, Chip.ShowsTime]
  unfold Chip.registers registersOf setClockBytes
  simp only [Function.update_apply, fillFrom_apply, decToBcd_eq, hx.sec, hx.min, hx.hour, hx.mday,
    hmonth, hyear, hbyte, hsec]
  rfl

/-- A clock that was set is read, by either library, as the time it was set to and the seconds
that it has counted since; the library that set it needs a pass in which the chip does not
count, which the passes before it do not spoil. -/
theorem readClock_setClock {tick : Chip → Chip} (htick : KeepsTime tick) {x : tm} {t : UInt32}
    (ht : InCentury t.toNat) (hx : Names x t) (gaps : ℕ → ℕ) (r : Chip)
    {passes : List (ℕ → ℕ)} (hmono : ∀ counts ∈ passes, Monotone counts)
    (hfast : ∀ counts ∈ passes, counts 7 < counts 0 + 60)
    (hend : ∀ counts ∈ passes, InCentury (t.toNat + counts 7)) {n : ℕ}
    (hn : InCentury (t.toNat + n)) (stack : tmElements_t) :
    (readClock tick (setClock tick x gaps r) passes).map tm.since1970 =
        ((passes.find? fun counts => counts 7 = counts 0).map fun counts =>
          (Time.breakTime (t + UInt32.ofNat (counts 0))).reading) ∧
      get (.ofRegisters (Chip.registers (tick^[n] (setClock tick x gaps r)))) stack =
        t + UInt32.ofNat n := by
  have hr := showsTime_setClock htick ht hx gaps r
  exact ⟨map_readClock htick ht hr hmono hfast hend,
    get_of_registers hn.add (htick.iterate ht hr n hn) stack⟩

/-- The chip counts during a first pass and not during a second one. -/
def twoPasses : List (ℕ → ℕ) := [fun i => if i < 3 then 0 else 1, fun _ => 2]

lemma monotone_twoPasses : ∀ counts ∈ twoPasses, Monotone counts := by
  refine List.forall_mem_cons.mpr ⟨fun i j hij => ?_, ?_⟩
  · dsimp only
    split_ifs <;> omega
  · exact List.forall_mem_singleton.mpr fun _ _ _ => le_rfl

/-- Two seconds after noon of 1 July 2016. -/
theorem readClock_setClock_noon :
    (readClock Chip.count (setClock Chip.count ⟨0, 0, 12, 1, 6, 116, 5, 182⟩ (fun _ => 1)
        fun _ => 0) twoPasses).map tm.since1970 =
        ((twoPasses.find? fun counts => counts 7 = counts 0).map fun counts =>
          (Time.breakTime (1467374400 + UInt32.ofNat (counts 0))).reading) ∧
      get (.ofRegisters (Chip.registers (Chip.count^[2] (setClock Chip.count
        ⟨0, 0, 12, 1, 6, 116, 5, 182⟩ (fun _ => 1) fun _ => 0)))) ⟨0, 0, 0, 0, 0, 0, 0⟩ =
          1467374400 + UInt32.ofNat 2 :=
  readClock_setClock keepsTime_count ⟨by decide, by decide⟩
    ⟨by decide +kernel, by decide +kernel, by decide +kernel, by decide +kernel,
      by decide +kernel, by decide +kernel⟩ _ _ monotone_twoPasses
    (by decide) (List.forall_mem_cons.mpr ⟨⟨by decide, by decide⟩,
      List.forall_mem_singleton.mpr ⟨by decide, by decide⟩⟩) ⟨by decide, by decide⟩ _

end ArduinoProjects.RTCx
