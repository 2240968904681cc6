import ParkingStation.Settings.Validity
import ParkingStation.Text.Utf8
import ParkingStation.Toml.Document

/-! An absent entry has its default, and entries of other names are passed over. -/

namespace ParkingStation.Settings

open Toml

def unsigned (bits : Nat) : Value → Option Nat
  | .integer n => if 0 ≤ n ∧ n < Int.pow 2 bits then some n.toNat else none
  | _ => none

def byte (v : Value) : Option UInt8 := (unsigned 8 v).map UInt8.ofNat

def text : Value → Option String
  | .string s => some s
  | _ => none

def flag : Value → Option Bool
  | .boolean b => some b
  | _ => none

def entry {α : Type} (entries : Entries) (name : String) (default : α) (read : Value → Option α) : Option α :=
  match List.lookup name entries with
  | some v => read v
  | none => some default

def Parity.all : List (String × Parity) := [("none", .none), ("odd", .odd), ("even", .even)]

def Parity.read : Value → Option Parity
  | .string name | .table [(name, .table [])] => List.lookup name Parity.all
  | _ => Option.none

def Serial.read (entries : Entries) : Option Serial := do
  let d : Serial := {}
  return {
    port := ← entry entries "port" d.port text
    baudRate := ← entry entries "baud_rate" d.baudRate (unsigned 32)
    parity := ← entry entries "parity" d.parity Parity.read
    stopBits := ← entry entries "stop_bits" d.stopBits (unsigned 8)
    dataBits := ← entry entries "data_bits" d.dataBits (unsigned 8) }

def isReadable (v : Value) : Bool :=
  v.allLeaves fun
    | .malformed => false
    | _ => true

def passing (own : List String) (p : Value → Bool) (entries : Entries) : Option Entries :=
  if entries.all fun (name, v) => own.contains name || p v then some entries else none

def Timing.names : List String :=
  ["write_timeout_ms", "ack_timeout_ms", "response_timeout_ms", "max_retries", "max_poll_attempts",
    "inter_frame_delay_ms", "frame_gap_ms"]

def Timing.entries? : Value → Option Entries
  | .table entries => passing names isReadable entries
  | .array items => some (names.zip items)
  | .moment _ => some []
  | _ => none

def Timing.read (v : Value) : Option Timing := do
  let d : Timing := {}
  let entries ← entries? v
  return {
    writeTimeout := ← entry entries "write_timeout_ms" d.writeTimeout (unsigned 64)
    ackTimeout := ← entry entries "ack_timeout_ms" d.ackTimeout (unsigned 64)
    responseTimeout := ← entry entries "response_timeout_ms" d.responseTimeout (unsigned 64)
    maxRetries := ← entry entries "max_retries" d.maxRetries (unsigned 32)
    maxPollAttempts := ← entry entries "max_poll_attempts" d.maxPollAttempts (unsigned 32)
    interFrameDelay := ← entry entries "inter_frame_delay_ms" d.interFrameDelay (unsigned 64)
    frameGap := ← entry entries "frame_gap_ms" d.frameGap (unsigned 64) }

def isNarrow (v : Value) : Bool :=
  v.allLeaves fun
    | .integer n => -Int.pow 2 63 ≤ n ∧ n < Int.pow 2 64
    | .malformed => false
    | _ => true

def section? (own : List String) : Value → Option Entries
  | .table entries => passing own isNarrow entries
  | .moment _ => some []
  | _ => none

def Antenna.read (v : Value) : Option Antenna := do
  let d : Antenna := {}
  let entries ← section? ["enabled", "timing", "min_ok_times", "source_id", "dest_id"] v
  return {
    enabled := ← entry entries "enabled" d.enabled flag
    serial := ← Serial.read entries
    timing := ← entry entries "timing" d.timing Timing.read
    minOkTimes := ← entry entries "min_ok_times" d.minOkTimes (unsigned 32)
    sourceId := ← entry entries "source_id" d.sourceId byte
    destId := ← entry entries "dest_id" d.destId byte }

def CardReader.read (v : Value) : Option CardReader := do
  let d : CardReader := {}
  let entries ← section? ["enabled", "timing"] v
  return {
    enabled := ← entry entries "enabled" d.enabled flag
    serial := ← Serial.read entries
    timing := ← entry entries "timing" d.timing Timing.read }

def PaymentReader.read (v : Value) : Option PaymentReader := do
  let d : PaymentReader := {}
  let entries ← section? ["enabled", "timing", "login_key", "chunk_size"] v
  return {
    enabled := ← entry entries "enabled" d.enabled flag
    serial := ← Serial.read entries
    timing := ← entry entries "timing" d.timing Timing.read
    loginKey := ← entry entries "login_key" d.loginKey text
    chunkSize := ← entry entries "chunk_size" d.chunkSize (unsigned 64) }

def ofEntries (entries : Entries) : Option Settings := do
  let d : Settings := {}
  let entries ← passing ["antenna", "ksm", "lcsc"] isReadable entries
  return {
    antenna := ← entry entries "antenna" d.antenna Antenna.read
    cardReader := ← entry entries "ksm" d.cardReader CardReader.read
    paymentReader := ← entry entries "lcsc" d.paymentReader PaymentReader.read }

def parse (text : String) : Except Error Settings :=
  match Toml.parse text >>= ofEntries with
  | some settings => .ok settings
  | none => .error (.config .unreadable)

def load (content : Option Bytes) : Except Error Settings :=
  match content with
  | none => .error (.io "No such file or directory (os error 2)")
  | some bytes =>
    match Text.Utf8.decode? bytes with
    | none => .error (.io "stream did not contain valid UTF-8")
    | some text => do
      let settings ← parse text
      settings.check
      return settings

end ParkingStation.Settings
