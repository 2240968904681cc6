import ParkingStation.PaymentReader.Command
import ParkingStation.Settings.Basic

namespace ParkingStation.Settings

def hexValue? (b : UInt8) : Option UInt8 :=
  if 0x30 ≤ b ∧ b ≤ 0x39 then some (b - 0x30)
  else if 0x41 ≤ b ∧ b ≤ 0x46 then some (b - 0x37)
  else if 0x61 ≤ b ∧ b ≤ 0x66 then some (b - 0x57)
  else none

def hexPairs (position : Nat) : Bytes → Except HexDefect Bytes
  | [] => .ok []
  | [_] => .error .oddLength
  | high :: low :: rest =>
    match hexValue? high, hexValue? low with
    | none, _ => .error (.digit high position)
    | some _, none => .error (.digit low (position + 1))
    | some h, some l => (hexPairs (position + 2) rest).map ((h * 16 + l) :: ·)

def readHex (text : Bytes) : Except HexDefect Bytes :=
  if text.length % 2 = 0 then hexPairs 0 text else .error .oddLength

def PaymentReader.key (settings : PaymentReader) : Except Error ParkingStation.PaymentReader.LoginBlock :=
  match readHex (Text.Utf8.encode (Text.trim settings.loginKey)) with
  | .error defect => .error (.config (.loginKeyText defect))
  | .ok bs =>
    if h : bs.length = 8 then .ok ⟨bs, h⟩ else .error (.config (.loginKeyLength bs.length))

def ensure (condition : Bool) (cause : Misconfiguration) : Except Error Unit :=
  if condition then .ok () else .error (.config cause)

def Serial.check (device : Device) (s : Serial) : Except Error Unit := do
  ensure (Text.trim s.port ≠ "") (.emptyPort device)
  ensure (s.baudRate ≠ 0) (.baudRate device)
  ensure (s.stopBits = 1 ∨ s.stopBits = 2) (.stopBits device s.stopBits)
  ensure (s.dataBits = 7 ∨ s.dataBits = 8) (.dataBits device s.dataBits)

def Timing.check (device : Device) (t : Timing) : Except Error Unit := do
  ensure (0 < t.writeTimeout ∧ 0 < t.ackTimeout ∧ 0 < t.responseTimeout ∧ 0 < t.frameGap) (.timeouts device)
  ensure (t.maxPollAttempts ≠ 0) (.pollAttempts device)

def Antenna.check (a : Antenna) : Except Error Unit := do
  a.serial.check .antenna
  a.timing.check .antenna
  ensure (a.minOkTimes ≠ 0) .minOkTimes

def CardReader.check (c : CardReader) : Except Error Unit := do
  c.serial.check .cardReader
  c.timing.check .cardReader

def PaymentReader.check (p : PaymentReader) : Except Error Unit := do
  p.serial.check .paymentReader
  p.timing.check .paymentReader
  discard p.key
  ensure (0 < p.chunkSize ∧ p.chunkSize ≤ ParkingStation.PaymentReader.maxChunkSize)
    (.chunkSize ParkingStation.PaymentReader.maxChunkSize p.chunkSize)

def Serial.connect (present : String → Bool) (s : Serial) : Except Error Unit :=
  if s.dataBits ≠ 7 ∧ s.dataBits ≠ 8 then .error (.config (.unsupportedDataBits s.dataBits))
  else if s.stopBits ≠ 1 ∧ s.stopBits ≠ 2 then .error (.config (.unsupportedStopBits s.stopBits))
  else if present s.port then .ok ()
  else .error (.io (s.port ++ ": No such file or directory"))

end ParkingStation.Settings

namespace ParkingStation

def Settings.check (s : Settings) : Except Error Unit := do
  if s.antenna.enabled then s.antenna.check
  if s.cardReader.enabled then s.cardReader.check
  if s.paymentReader.enabled then s.paymentReader.check

def Settings.connect (present : String → Bool) (hasLine : Device → Bool) (s : Settings) : Except Error Unit := do
  if s.antenna.enabled ∧ !hasLine .antenna then s.antenna.serial.connect present
  if s.cardReader.enabled ∧ !hasLine .cardReader then s.cardReader.serial.connect present
  if s.paymentReader.enabled ∧ !hasLine .paymentReader then s.paymentReader.serial.connect present

end ParkingStation
