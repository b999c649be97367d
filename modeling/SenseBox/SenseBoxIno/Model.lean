import SenseBox.Data.Run
import SenseBox.Device.BMP280
import SenseBox.Device.HDC100X
import SenseBox.Device.Print
import SenseBox.Device.PrintFloat

namespace SenseBox.SenseBoxIno

open SenseBox.Data
open SenseBox.Device

/-! The senseBox: five measurements a minute, uploaded as one CSV document. -/

abbrev numSensors : Nat := 5

abbrev Id := Vector UInt8 12

def senseboxId : Id :=
  #v[0x58, 0xe5, 0x35, 0x59, 0xba, 0x27, 0x90, 0x00, 0x11, 0x26, 0xef, 0x6b]

/-- Temperature, humidity, pressure, illuminance and UV. -/
def sensors : Vector Id numSensors :=
  #v[#v[0x58, 0xe5, 0x35, 0x59, 0xba, 0x27, 0x90, 0x00, 0x11, 0x26, 0xef, 0x6c],
    #v[0x58, 0xe5, 0x35, 0x59, 0xba, 0x27, 0x90, 0x00, 0x11, 0x26, 0xef, 0x6d],
    #v[0x58, 0xe5, 0x35, 0x59, 0xba, 0x27, 0x90, 0x00, 0x11, 0x26, 0xef, 0x6e],
    #v[0x58, 0xe5, 0x35, 0x59, 0xba, 0x27, 0x90, 0x00, 0x11, 0x26, 0xef, 0x6f],
    #v[0x58, 0xe5, 0x35, 0x59, 0xba, 0x27, 0x90, 0x00, 0x11, 0x26, 0xef, 0x70]]

structure State where
  sensorsIndex : UInt8
  values : Vector Flt numSensors
  tempBaro : Flt
  pressure : Flt
  hdc : HDC100X
  bmp : BMP280

/-- The start-up code, whose effect a restart has as well. -/
def initial : State where
  sensorsIndex := 0
  values := Vector.replicate numSensors (.fin 0)
  tempBaro := .fin 0
  pressure := .fin 0
  hdc := ⟨0⟩
  bmp := .initial

/-- Writing beyond the array is a fault. -/
def addValue (value : Flt) (s : State) : Option State :=
  if hindex : s.sensorsIndex.toNat < numSensors then
    some { s with
      values := s.values.set s.sensorsIndex.toNat value
      sensorsIndex := s.sensorsIndex + 1 }
  else none

/-- The two bytes of the UV word, each read only if it is available. -/
def getUV (msb lsb : Option UInt8) : UInt16 :=
  let uvValue := (msb.getD 0).toUInt16 <<< 8 ||| (lsb.getD 0).toUInt16
  uvValue * 5

/-! Printing.  A stream is the list of the bytes written to it, and a print
returns how many it has written. -/

def print (chars stream : Text) : Int16 × Text :=
  (Int16.ofNat chars.length, stream ++ chars)

def println (chars stream : Text) : Int16 × Text :=
  print (chars ++ Lines.crlf) stream

def hexDigit (nibble : UInt8) : UInt8 :=
  let first := nibble ||| 48
  if first > 57 then first + 39 else first

/-- The loop of `printHexToStream` from `i` on; `data` is a pointer. -/
def hexLoop (data : Nat → UInt8) (length i : UInt8) (j : Int16)
    (stream : Text) : Int16 × Text :=
  if i < length then
    hexLoop data length (i + 1) (j + 1 + 1)
      (stream ++ [hexDigit (data i.toNat >>> 4)] ++
        [hexDigit (data i.toNat &&& 0x0F)])
  else (j, stream)
termination_by length.toNat - i.toNat
decreasing_by
  have hlt : i.toNat < length.toNat := UInt8.lt_iff_toNat_lt.mp (by assumption)
  have hnext : (i + 1).toNat = (i.toNat + 1) % 2 ^ 8 := UInt8.toNat_add i 1
  have hlength := length.toNat_lt
  omega

def printHexToStream (data : Nat → UInt8) (length : UInt8) (stream : Text) :
    Int16 × Text :=
  hexLoop data length 0 0 stream

def pointer (id : Id) (offset : Nat) : UInt8 := id.toList.getD offset 0

def digits (i : UInt8) : Nat := if i < 3 then 2 else 0

variable (core : FloatText)

/-- The loop of `printCsvToStream` from `i` on; reading beyond one of the arrays
is a fault. -/
def csvLoop (s : State) (i : UInt8) (len : Int16) (stream : Text) :
    Option (Int16 × Text) :=
  if i < s.sensorsIndex then
    match s.values[i.toNat]?, sensors[i.toNat]? with
    | some value, some id =>
        if !value.isNan then
          let (count, stream) := printHexToStream (pointer id) 12 stream
          let len := len + count
          let (count, stream) := print [comma] stream
          let len := len + count
          let (count, stream) := println (core.chars value (digits i)) stream
          csvLoop s (i + 1) (len + count) stream
        else csvLoop s (i + 1) len stream
    | _, _ => none
  else some (len, stream)
termination_by s.sensorsIndex.toNat - i.toNat
decreasing_by
  all_goals
    have hlt : i.toNat < s.sensorsIndex.toNat :=
      UInt8.lt_iff_toNat_lt.mp (by assumption)
    have hnext : (i + 1).toNat = (i.toNat + 1) % 2 ^ 8 := UInt8.toNat_add i 1
    have hlength := s.sensorsIndex.toNat_lt
    omega

def printCsvToStream (s : State) (stream : Text) : Option (Int16 × Text) :=
  csvLoop core s 0 0 stream

inductive Submission where
  | sent (client : Text) (s : State)
  | restarted

/-- The bytes sent to the client, or the restart after a failed connect. -/
def submitValues (connected : Bool) (s : State) : Option Submission :=
  if connected then do
    let (_, client) := print (text "POST /boxes/") []
    let (_, client) := printHexToStream (pointer senseboxId) 12 client
    let (_, client) := println (text "/data HTTP/1.1") client
    -- printed once to `Serial`, for the length
    let (contentLen, _) ← printCsvToStream core s []
    let (_, client) := print (text "Host: ") client
    let (_, client) := println (text "52.57.90.92") client
    let (_, client) := print (text
      "Content-Type: text/csv\nConnection: close\nContent-Length: ") client
    let (_, client) := println (printInt contentLen).flatten client
    let (_, client) := println [] client
    let (_, client) ← printCsvToStream core s client
    let (_, client) := println [] client
    some (.sent client { s with sensorsIndex := 0 })
  else some .restarted

/-- What `setup` meets: whether the shield is there, whether the network is ever
joined, and the calibration words. -/
structure SetupIo where
  shield : Bool
  joined : Bool
  words : Nat → Option UInt16

/-- `none` is one of the endless loops; the result of `BMP.begin()` is ignored. -/
def setup (io : SetupIo) : Option State :=
  if !io.shield || !io.joined then none
  else
    some { initial with
      hdc := HDC100X.start hdc100xTempHumi
      bmp := (BMP280.initial.start io.words).2.setOversampling 4 }

/-- What one pass of `loop` meets; `again` is for the restart. -/
structure Pass where
  rawTemp : UInt16
  rawHumi : UInt16
  started : Bool
  data : Option (Vector UInt8 6)
  lux : UInt32
  uvMsb : Option UInt8
  uvLsb : Option UInt8
  connected : Bool
  again : SetupIo

variable (fmt : Rounding)

def measurePressure (pass : Pass) (s : State) : State :=
  if s.bmp.startMeasurment pass.started ≠ 0 then
    let measured := BMP280.getTemperatureAndPressure fmt pass.data s.tempBaro
      s.pressure s.bmp
    { s with
      tempBaro := measured.t
      pressure := measured.p
      bmp := measured.bmp }
  else s

def statements (pass : Pass) : List (State → Option State) :=
  [fun s => (s.hdc.getTemp fmt pass.rawTemp).bind fun value => addValue value s,
    fun s => (s.hdc.getHumi fmt pass.rawHumi).bind fun value => addValue value s,
    fun s => some (measurePressure fmt pass s),
    fun s => addValue s.pressure s,
    fun s => addValue (fmt.ofInt pass.lux.toNat) s,
    fun s => addValue (fmt.ofInt (getUV pass.uvMsb pass.uvLsb).toNat) s]

def execute (statements : List (State → Option State)) (s : State) :
    Option State :=
  run (fun statement => statement) statements s

def loop (pass : Pass) (s : State) : Option State := do
  let s ← execute (statements fmt pass) s
  match ← submitValues core pass.connected s with
  | .sent _ s => some s
  | .restarted => setup pass.again

end SenseBox.SenseBoxIno
