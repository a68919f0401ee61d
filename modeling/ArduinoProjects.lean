import ArduinoProjects.Util.History
import ArduinoProjects.Util.Decimal
import ArduinoProjects.Util.SignedDecimal
import ArduinoProjects.Util.Overlay
import ArduinoProjects.Util.Stream
import ArduinoProjects.Util.Port
import ArduinoProjects.Util.CString
import ArduinoProjects.Util.Table
import ArduinoProjects.Util.Intervals
import ArduinoProjects.Util.Calendar
import ArduinoProjects.Util.Counter
import ArduinoProjects.Util.RegisterFile
import ArduinoProjects.Util.Polling
import ArduinoProjects.Core
import ArduinoProjects.Thermocouple
import ArduinoProjects.DS1307RTC
import ArduinoProjects.Satsumaimo1.Sketch
import ArduinoProjects.Satsumaimo1.Valves
import ArduinoProjects.Satsumaimo1.Frame
import ArduinoProjects.Satsumaimo1.ClockFailure
import ArduinoProjects.Satsumaimo1.Buffers
import ArduinoProjects.Satsumaimo2.SketchJul05d
import ArduinoProjects.Satsumaimo2.Framing
import ArduinoProjects.Satsumaimo2.OddSeconds
import ArduinoProjects.FixedCount.Receive
import ArduinoProjects.FixedCount.Prefix
import ArduinoProjects.Satsumaimo2.Kaisu
import ArduinoProjects.Satsumaimo3.Sketch
import ArduinoProjects.Satsumaimo3.Rows
import ArduinoProjects.Satsumaimo3.Receive
import ArduinoProjects.Satsumaimo3.Table
import ArduinoProjects.Telemetry.Columns
import ArduinoProjects.Telemetry.TimeOrder
import ArduinoProjects.Telemetry.ReceiveBounds
import ArduinoProjects.Servers.Sketch
import ArduinoProjects.Servers.Record
import ArduinoProjects.Servers.TenMinutes
import ArduinoProjects.Thermometers
import ArduinoProjects.TestTimeAndDENJI
import ArduinoProjects.I2C.Sketch
import ArduinoProjects.I2C.Echo
import ArduinoProjects.Time.Conversion
import ArduinoProjects.Time.RoundTrip
import ArduinoProjects.Time.Clock
import ArduinoProjects.Time.Sync
import ArduinoProjects.DS1307RTC.Chip
import ArduinoProjects.DS1307RTC.Write
import ArduinoProjects.DS1307RTC.SetGet
import ArduinoProjects.Telemetry.SetClock
import ArduinoProjects.RTClib.DateTime
import ArduinoProjects.RTClib.Agreement
import ArduinoProjects.RTClib.TimeSpan
import ArduinoProjects.RTClib.DS1307
import ArduinoProjects.RTClib.CompileTime
import ArduinoProjects.Clock01
import ArduinoProjects.RTCTimer.Event
import ArduinoProjects.RTCTimer.Timer
import ArduinoProjects.RTCTimer.Reentrant
import ArduinoProjects.RTCTimer.Commands
import ArduinoProjects.RTCTimer.Adjust
import ArduinoProjects.RTCx.Gmtime
import ArduinoProjects.RTCx.Mktime
import ArduinoProjects.RTCx.Clock
import ArduinoProjects.Osc.Message
import ArduinoProjects.Osc.Receiver
import ArduinoProjects.Osc.RoundTrip
import ArduinoProjects.Osc.Accepted
import ArduinoProjects.Osc.Board
import ArduinoProjects.Osc.Reports
import ArduinoProjects.Osc.Known
