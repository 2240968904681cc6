import ParkingStation.Settings.Basic
import ParkingStation.Text.Printable

namespace ParkingStation.Settings

inductive Layout
  | record (name : String) (fields : List (String × Layout))
  | text (s : String)
  | number (n : Nat)
  | flag (b : Bool)
  | choice (name : String)

namespace Layout

def margin (depth : Nat) : String := String.ofList (List.replicate (4 * depth) ' ')

mutual

def render (depth : Nat) : Layout → String
  | record name fields => name ++ " \x7b\n" ++ renderFields depth fields ++ margin depth ++ "\x7d"
  | text s => Text.quotedText s
  | number n => toString n
  | flag b => if b then "true" else "false"
  | choice name => name

def renderFields (depth : Nat) : List (String × Layout) → String
  | [] => ""
  | (name, value) :: rest =>
    margin (depth + 1) ++ name ++ ": " ++ render (depth + 1) value ++ ",\n" ++ renderFields depth rest

end

end Layout

def Parity.layout : Parity → Layout
  | none => .choice "None"
  | odd => .choice "Odd"
  | even => .choice "Even"

def Serial.layout (s : Serial) : Layout :=
  .record "SerialSettings" [("port", .text s.port), ("baud_rate", .number s.baudRate), ("parity", s.parity.layout),
    ("stop_bits", .number s.stopBits), ("data_bits", .number s.dataBits)]

def Timing.layout (t : Timing) : Layout :=
  .record "TimingConfig" [("write_timeout_ms", .number t.writeTimeout), ("ack_timeout_ms", .number t.ackTimeout),
    ("response_timeout_ms", .number t.responseTimeout), ("max_retries", .number t.maxRetries),
    ("max_poll_attempts", .number t.maxPollAttempts), ("inter_frame_delay_ms", .number t.interFrameDelay),
    ("frame_gap_ms", .number t.frameGap)]

def commonFields (enabled : Bool) (serial : Serial) (timing : Timing) : List (String × Layout) :=
  [("enabled", .flag enabled), ("serial", serial.layout), ("timing", timing.layout)]

def Antenna.layout (a : Antenna) : Layout :=
  .record "AntennaConfig" (commonFields a.enabled a.serial a.timing ++
    [("min_ok_times", .number a.minOkTimes), ("source_id", .number a.sourceId.toNat),
      ("dest_id", .number a.destId.toNat)])

def CardReader.layout (c : CardReader) : Layout :=
  .record "KsmConfig" (commonFields c.enabled c.serial c.timing)

def PaymentReader.layout (p : PaymentReader) : Layout :=
  .record "LcscConfig" (commonFields p.enabled p.serial p.timing ++
    [("login_key", .text p.loginKey), ("chunk_size", .number p.chunkSize)])

end ParkingStation.Settings

namespace ParkingStation

def Settings.layout (s : Settings) : Settings.Layout :=
  .record "StationConfig"
    [("antenna", s.antenna.layout), ("ksm", s.cardReader.layout), ("lcsc", s.paymentReader.layout)]

def Settings.describe (s : Settings) : String := s.layout.render 0

end ParkingStation
