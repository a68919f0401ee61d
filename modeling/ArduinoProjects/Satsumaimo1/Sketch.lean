import ArduinoProjects.DS1307RTC
import ArduinoProjects.Thermocouple
import ArduinoProjects.Util.History

/-!
# Satsumaimo1: the irrigation controller

One pass of `loop()` reads the soil, the clock and, in odd seconds, the thermocouple,
drives the two valves, and sends one telemetry frame. What outlives a pass is `State`:
the latch `Denji`, the held water temperature `suion`, the flag byte `S[1]` and the
output levels. The clock structure `tm` lives on the stack and starts out with whatever
the stack holds; the result of `RTC.read` is ignored.

`loop` is the composition of the pieces of the sketch in their order. After each piece
stand the equations later proofs use instead of its definition.
-/

namespace ArduinoProjects.Satsumaimo1

open Util

/-- The valve for the potatoes. -/
def DENJI1 : ℕ := 2
/-- The drain valve. -/
def DENJI2 : ℕ := 3
/-- An output that stays high. -/
def Test : ℕ := 4
/-- An output that serves as a ground. -/
def GNDD : ℕ := 6
/-- An output that serves as a supply. -/
def VCCC : ℕ := 7
/-- The supply of the thermocouple. -/
def VCC : ℕ := 8
/-- The ground of the thermocouple. -/
def GND : ℕ := 9
/-- The select line of the thermocouple. -/
def SLAVE : ℕ := 10

/-- The globals and the output levels. -/
structure State where
  suion : ℚ
  /-- 1 = the soil was wet -/
  Denji : ℤ
  /-- `S[1]` -/
  S1 : UInt8
  pins : Pins

/-- What one pass of `loop()` finds: three conversions, the clock's answer, the old
content of the stack under `tm`, and the sensor's answer (read in odd seconds only). -/
structure Pass where
  kion : ℕ
  suibun : ℕ
  okujyou : ℕ
  wire : DS1307RTC.WireReply
  stack : tmElements_t
  spi : SpiReply

/-- The state after `setup()`. -/
def setup : State where
  suion := 0
  Denji := 0
  S1 := 0
  pins :=
    let pins : Pins := fun _ => .LOW
    let pins := digitalWrite pins DENJI1 .LOW
    let pins := digitalWrite pins DENJI2 .LOW
    let pins := digitalWrite pins VCCC .HIGH
    let pins := digitalWrite pins GNDD .LOW
    digitalWrite pins Test .HIGH

/-! ## The pieces of `loop()` -/

/-- `if (750 <= suibun) Denji = 1;` -/
def latchWet (s : State) (suibun : ℕ) : State :=
  if 750 ≤ suibun then { s with Denji := 1 } else s

/-- What `tm` holds after `RTC.read(tm)`, whatever that returned. -/
def Pass.tm (p : Pass) : tmElements_t := (DS1307RTC.read p.wire p.stack).2

/-- The odd-second thermocouple reading. -/
def measure (s : State) (Second : UInt8) (spi : SpiReply) : State :=
  if Second % 2 = 1 then
    let pins := digitalWrite s.pins GND .LOW
    let pins := digitalWrite pins VCC .HIGH
    let pins := digitalWrite pins SLAVE .HIGH
    -- the chip answers while `SLAVE` is low
    let pins := digitalWrite pins SLAVE .LOW
    let pins := digitalWrite pins SLAVE .HIGH
    { s with suion := Thermocouple.sample s.suion spi, pins := pins }
  else
    s

/-- The two watering windows, 4 to 6 and 18 to 20 o'clock. -/
def InWindow (Hour : UInt8) : Prop := 4 ≤ Hour ∧ Hour ≤ 6 ∨ 18 ≤ Hour ∧ Hour ≤ 20

instance (Hour : UInt8) : Decidable (InWindow Hour) := inferInstanceAs (Decidable (_ ∨ _))

/-- The valve branches. The drain branch leaves the flag byte alone. -/
def driveValves (s : State) (Hour : UInt8) : State :=
  if InWindow Hour then
    if s.Denji = 0 then
      -- open the field's valve on cool water
      if s.suion < 31 then
        { s with pins := digitalWrite (digitalWrite s.pins DENJI1 .HIGH) DENJI2 .LOW
                 S1 := ascii 'O' }
      else
        -- no assignment to `S[1]` here
        { s with pins := digitalWrite (digitalWrite s.pins DENJI1 .LOW) DENJI2 .HIGH }
    -- the soil was wet
    else
      { s with pins := digitalWrite (digitalWrite s.pins DENJI1 .LOW) DENJI2 .LOW
               S1 := ascii 'X' }
  -- outside the hours
  else
    { s with pins := digitalWrite (digitalWrite s.pins DENJI1 .LOW) DENJI2 .LOW
             S1 := ascii 'X' }

/-- `if (tm.Hour == 11) Denji = 0;` -/
def clearAtEleven (s : State) (Hour : UInt8) : State :=
  if Hour = 11 then { s with Denji := 0 } else s

/-- `float V` -/
def volts (okujyou : ℕ) : ℚ := okujyou * 5 / 1024

/-- `float O`, the non-contact thermometer's polynomial. -/
def nikkou (okujyou : ℕ) : ℚ :=
  -3.4248 * volts okujyou * volts okujyou + 49.898 * volts okujyou - 64.227

/-- The texts of one frame, under the names of their buffers. -/
structure Fields where
  YEAR : List UInt8
  MON : List UInt8
  DAY : List UInt8
  HOUR : List UInt8
  Min : List UInt8
  Sec : List UInt8
  Temp : List UInt8
  Suibun : List UInt8
  Suion : List UInt8
  Nikkou : List UInt8
  flag : UInt8

/-- The `Serial.write` calls of one pass. -/
def Fields.send (f : Fields) : List UInt8 :=
  f.YEAR ++ f.MON ++ f.DAY ++ f.HOUR ++ f.Min ++ f.Sec ++ f.Temp ++ f.Suibun ++ f.Suion ++
    f.Nikkou ++ [f.flag]

/-- The `dtostrf` calls of one pass, around the texts `Temp` and `Nikkou`. -/
def fieldsOf (A : Arduino) (tm : tmElements_t) (Temp : List UInt8) (suibun : ℕ) (suion : ℚ)
    (Nikkou : List UInt8) (flag : UInt8) : Fields where
  YEAR := A.dtostrf (tmYearToCalendar tm.Year) 4 0
  MON := A.dtostrf tm.Month.toNat 2 0
  DAY := A.dtostrf tm.Day.toNat 2 0
  HOUR := A.dtostrf tm.Hour.toNat 2 0
  Min := A.dtostrf tm.Minute.toNat 2 0
  Sec := A.dtostrf tm.Second.toNat 2 0
  Temp := Temp
  Suibun := A.dtostrf suibun 3 0
  Suion := A.dtostrf suion 2 1
  Nikkou := Nikkou
  flag := flag

/-- The frame for an air temperature `T` and a sunlit temperature `O`. -/
def frame (A : Arduino) (tm : tmElements_t) (T : ℚ) (suibun : ℕ) (suion O : ℚ)
    (flag : UInt8) : Fields :=
  fieldsOf A tm (A.dtostrf T 2 1) suibun suion (A.dtostrf O 2 1) flag

/-- One pass: the state it ends in and the bytes it sends. -/
def loop (A : Arduino) (s : State) (p : Pass) : State × List UInt8 :=
  let s := latchWet s p.suibun
  let tm := p.tm
  let s := measure s tm.Second p.spi
  let s := driveValves s tm.Hour
  let s := clearAtEleven s tm.Hour
  (s, (frame A tm (A.airTemp p.kion) p.suibun s.suion (nikkou p.okujyou) s.S1).send)

/-! ## What each piece does to each variable -/

/-- The latch leaves the temperature alone. -/
@[simp] lemma latchWet_suion (s : State) (v : ℕ) : (latchWet s v).suion = s.suion := by
  unfold latchWet
  split <;> rfl

/-- The latch leaves the flag alone. -/
@[simp] lemma latchWet_S1 (s : State) (v : ℕ) : (latchWet s v).S1 = s.S1 := by
  unfold latchWet
  split <;> rfl

/-- The latch is set from 750 on. -/
lemma latchWet_Denji (s : State) (v : ℕ) :
    (latchWet s v).Denji = if 750 ≤ v then 1 else s.Denji := by
  unfold latchWet
  split <;> rfl

/-- A measurement leaves the latch alone. -/
@[simp] lemma measure_Denji (s : State) (sec : UInt8) (spi : SpiReply) :
    (measure s sec spi).Denji = s.Denji := by
  unfold measure
  split <;> rfl

@[simp] lemma measure_S1 (s : State) (sec : UInt8) (spi : SpiReply) :
    (measure s sec spi).S1 = s.S1 := by
  unfold measure
  split <;> rfl

/-- The held temperature changes in an odd second without a fault, and only then. -/
lemma measure_suion (s : State) (sec : UInt8) (spi : SpiReply) :
    (measure s sec spi).suion =
      if sec % 2 = 1 ∧ ¬ spi.fault then Thermocouple.decode spi.thermocouple else s.suion := by
  unfold measure Thermocouple.sample
  by_cases h : sec % 2 = 1 <;> by_cases hf : spi.fault <;> simp [h, hf]

@[simp] lemma driveValves_suion (s : State) (h : UInt8) : (driveValves s h).suion = s.suion := by
  unfold driveValves
  split_ifs <;> rfl

@[simp] lemma driveValves_Denji (s : State) (h : UInt8) : (driveValves s h).Denji = s.Denji := by
  unfold driveValves
  split_ifs <;> rfl

/-- The valve for the potatoes opens in the window, when the soil was never wet and the water is
not warm. -/
lemma driveValves_DENJI1 (s : State) (h : UInt8) :
    (driveValves s h).pins DENJI1 = .HIGH ↔ InWindow h ∧ s.Denji = 0 ∧ s.suion < 31 := by
  have hne : DENJI1 ≠ DENJI2 := by decide
  unfold driveValves
  split_ifs <;> simp_all [digitalWrite_of_ne _ _ hne]

/-- The branch that opens the drain: in a window, not latched, water too warm. -/
def Drains (s : State) (Hour : UInt8) : Prop := InWindow Hour ∧ s.Denji = 0 ∧ ¬ s.suion < 31

instance (s : State) (Hour : UInt8) : Decidable (Drains s Hour) :=
  inferInstanceAs (Decidable (_ ∧ _))

/-- The drain valve opens when the pass drains. -/
lemma driveValves_DENJI2 (s : State) (h : UInt8) :
    (driveValves s h).pins DENJI2 = .HIGH ↔ Drains s h := by
  unfold driveValves Drains
  split_ifs <;> simp_all

/-- The flag is left alone by a pass that drains, and else says whether the valve is open. -/
lemma driveValves_S1 (s : State) (h : UInt8) :
    (driveValves s h).S1 =
      if Drains s h then s.S1
      else if (driveValves s h).pins DENJI1 = .HIGH then ascii 'O' else ascii 'X' := by
  simp only [driveValves_DENJI1]
  unfold driveValves Drains
  split_ifs <;> simp_all

@[simp] lemma clearAtEleven_suion (s : State) (h : UInt8) :
    (clearAtEleven s h).suion = s.suion := by
  unfold clearAtEleven
  split <;> rfl

@[simp] lemma clearAtEleven_S1 (s : State) (h : UInt8) : (clearAtEleven s h).S1 = s.S1 := by
  unfold clearAtEleven
  split <;> rfl

/-- Hour 11 leaves the outputs alone. -/
@[simp] lemma clearAtEleven_pins (s : State) (h : UInt8) :
    (clearAtEleven s h).pins = s.pins := by
  unfold clearAtEleven
  split <;> rfl

/-- Hour 11 clears the latch. -/
lemma clearAtEleven_Denji (s : State) (h : UInt8) :
    (clearAtEleven s h).Denji = if h = 11 then 0 else s.Denji := by
  unfold clearAtEleven
  split <;> rfl

end ArduinoProjects.Satsumaimo1
