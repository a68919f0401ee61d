import ArduinoProjects.FixedCount.Receive
import ArduinoProjects.Thermocouple

/-!
# SD_Server_Side and Arduino_Serverside2

The two servers receive, cut and sample alike and differ in what they write: one prints
all slots to `datalog.txt`, the other sends most of them to the serial line instead. The
slot arrays are as large as the bytes stored in them. `Year` has no NUL behind it, so
`Serial.print(Year)` goes on with what stands behind it on the stack.
-/

namespace ArduinoProjects.Servers

open Util

/-- The slots of one pass. -/
structure Slots where
  Year : List UInt8
  Month : List UInt8
  Day : List UInt8
  Hour : List UInt8
  Min : List UInt8
  Sec : List UInt8
  Kion : List UInt8
  Suibun : List UInt8
  Suion : List UInt8
  Nikkou : List UInt8

/-- The texts that are cut from the buffer. -/
def slots (Moji : ℕ → UInt8) : Slots where
  Year := [Moji 6, Moji 7, Moji 8, Moji 9]
  Month := [Moji 11, Moji 12]
  Day := [Moji 14, Moji 15]
  Hour := [Moji 17, Moji 18]
  Min := [Moji 20, Moji 21]
  Sec := [Moji 23, Moji 24]
  Kion := [Moji 25, Moji 26, Moji 27, Moji 28]
  Suibun := [Moji 30, Moji 31, Moji 32]
  Suion := [Moji 34, Moji 35, Moji 36, Moji 37]
  Nikkou := [Moji 1, Moji 2, Moji 3, Moji 4]

/-- `Hun == 48 && Byou == 48 && Byou1 == 48`, for `Byou = Sec[1]`, `Byou1 = Min[0]` and
`Hun = Min[1]`. -/
def gate (Moji : ℕ → UInt8) : Prop :=
  char (Moji 21) = 48 ∧ char (Moji 24) = 48 ∧ char (Moji 20) = 48

instance (Moji : ℕ → UInt8) : Decidable (gate Moji) := inferInstanceAs (Decidable (_ ∧ _))

/-! ## What the servers write -/

/-- The two servers. -/
inductive Server
  | SDServerSide
  | ArduinoServerside2
deriving DecidableEq

/-- The calls on `file`. -/
def SDServerSide.record (f : Slots) (Hanoura : ℚ) : List UInt8 :=
  text "Hello" ++ crlf ++ f.Year ++ text "/" ++ f.Month ++ text "/" ++ text " " ++ f.Day ++
    text " " ++ f.Hour ++ text ":" ++ f.Min ++ text ":" ++ f.Sec ++ text " " ++
    text " KION:" ++ f.Kion ++ text " " ++ text " SUIBUN:" ++ f.Suibun ++ text " " ++
    text " SUION:" ++ f.Suion ++ text " " ++ text " NIKKOU:" ++ f.Nikkou ++
    text " HIKAGE" ++ printFloat Hanoura 2 ++ text "" ++ crlf

/-- The calls on `Serial`, with `stack` behind `Year`. -/
def SDServerSide.serial (f : Slots) (opens : Bool) (stack : List UInt8) : List UInt8 :=
  (f.Year ++ stack).takeWhile (· ≠ 0) ++
    if opens then text "Hello" ++ crlf else text "SD Error" ++ crlf

/-- The calls on `dataFile`. -/
def ArduinoServerside2.record (f : Slots) : List UInt8 :=
  f.Year ++ text "/" ++ f.Month ++ text "/"

/-- The calls on `Serial`. -/
def ArduinoServerside2.serial (f : Slots) (Hanoura : ℚ) (opens : Bool) : List UInt8 :=
  if opens then
    text " " ++ f.Day ++ text " " ++ f.Hour ++ text ":" ++ f.Min ++ text ":" ++ f.Sec ++
      text " " ++ text " KION:" ++ f.Kion ++ text " " ++ text " SUIBUN:" ++ f.Suibun ++
      text " " ++ text " SUION:" ++ f.Suion ++ text " " ++ text " NIKKOU:" ++ f.Nikkou ++
      text " HIKAGE" ++ printFloat Hanoura 1 ++ text "\n"
  else
    text "Error"

/-! ## One pass -/

/-- The temperature in the shade, the texts appended to `datalog.txt`, and what has been
sent over the serial line. -/
structure State where
  Hanoura : ℚ
  datalog : List (List UInt8)
  serial : List UInt8

/-- The state after `setup()`. -/
def setup : State := ⟨0, [], []⟩

/-- The answers of the sensor and the card, and the stack behind `Year`. -/
structure Env where
  spi : SpiReply
  opens : Bool
  stack : List UInt8

namespace Server

/-- The sketch, by its receive loop. -/
def sketch : Server → FixedCount.Sketch
  | SDServerSide => .SDServerSide
  | ArduinoServerside2 => .ArduinoServerside2

/-- What a pass appends to the file. -/
def record (sv : Server) (f : Slots) (Hanoura : ℚ) : List UInt8 :=
  match sv with
  | SDServerSide => SDServerSide.record f Hanoura
  | ArduinoServerside2 => ArduinoServerside2.record f

/-- What a pass prints to `Serial`. -/
def serial (sv : Server) (f : Slots) (Hanoura : ℚ) (env : Env) : List UInt8 :=
  match sv with
  | SDServerSide => SDServerSide.serial f env.opens env.stack
  | ArduinoServerside2 => ArduinoServerside2.serial f Hanoura env.opens

/-- What follows the receive loop. -/
def rest (sv : Server) (s : State) (Moji : ℕ → UInt8) (env : Env) : State :=
  let Hanoura := if gate Moji then Thermocouple.sample s.Hanoura env.spi else s.Hanoura
  { Hanoura := Hanoura
    datalog := if env.opens then s.datalog ++ [sv.record (slots Moji) Hanoura] else s.datalog
    serial := s.serial ++ sv.serial (slots Moji) Hanoura env }

end Server

end ArduinoProjects.Servers
