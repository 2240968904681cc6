import ParkingStation.PaymentReader.File
import ParkingStation.PaymentReader.Record
import ParkingStation.Text.Utf8

namespace ParkingStation.PaymentReader

abbrev LoginBlock := { bs : Bytes // bs.length = 8 }

def LoginBlock.of? (bs : Bytes) : Option LoginBlock := if h : bs.length = 8 then some ⟨bs, h⟩ else none

inductive Command
  | getStatus
  | login1
  | login2 (response : LoginBlock)
  | logout
  | getCardId
  | getCardBalance
  | deduct (amount : UInt32)
  | flush
  | getTime
  | setTime (time : DateTime)
  | getFileVersions
  | uploadFile (kind : FileKind) (data : Bytes)
  deriving DecidableEq

namespace Command

def kind : Command → UInt8
  | getStatus => 0x01
  | login1 => 0x02
  | login2 _ => 0x03
  | logout => 0x04
  | getCardId => 0x10
  | getCardBalance => 0x11
  | deduct _ => 0x12
  | flush => 0x13
  | getTime => 0x20
  | setTime _ => 0x21
  | getFileVersions => 0x30
  | uploadFile .. => chunkType

def name : Command → String
  | getStatus => "GetStatus"
  | login1 => "Login1"
  | login2 _ => "Login2"
  | logout => "Logout"
  | getCardId => "GetCardId"
  | getCardBalance => "GetCardBalance"
  | deduct _ => "CardDeduct"
  | flush => "CardFlush"
  | getTime => "GetTime"
  | setTime _ => "SetTime"
  | getFileVersions => "GetCdVersions"
  | uploadFile .. => "UploadCdFile"

def needsCard : Command → Bool
  | getCardId | getCardBalance | deduct _ => true
  | _ => false

def payload : Command → Except Error Bytes
  | login2 response => .ok response.val
  | deduct amount => .ok (Bytes.ofNat 4 amount.toNat)
  | setTime time => Bcd.packDateTime time
  | uploadFile .. => .error (.commandNotRecognized .uploadInChunks)
  | _ => .ok []

def toFrame (seq : UInt8) (c : Command) : Except Error Frame :=
  c.payload.map fun payload => ⟨false, c.kind, seq :: payload⟩

end Command

inductive Status
  | ok
  | noCard
  | busy
  | chunkError
  | rejected (code : UInt8)
  deriving DecidableEq

namespace Status

def ofByte (b : UInt8) : Status :=
  if b = 0x00 then .ok
  else if b = 0x01 then .noCard
  else if b = 0x02 then .busy
  else if b = 0x03 then .chunkError
  else .rejected b

def name : Status → String
  | ok => "Ok"
  | noCard => "NoCard"
  | busy => "Busy"
  | chunkError => "ChunkError"
  | rejected code => "Rejected(" ++ toString code.toNat ++ ")"

end Status

structure Reply where
  kind : UInt8
  seq : UInt8
  status : Status
  data : Bytes
  deriving DecidableEq

def Reply.parse (frame : Frame) : Except Error Reply :=
  if frame.response then
    match frame.payload with
    | seq :: status :: data => .ok ⟨frame.kind, seq, .ofByte status, data⟩
    | short => .error (.truncated 2 short.length)
  else .error (.unexpectedResponse (.request frame.kind))

def readCardId (data : Bytes) : Except Error String := do
  required 8 data
  Bcd.unpack (data.take 8)

theorem length_zipWith_key {challenge : Bytes} (key : LoginBlock) (h : 8 ≤ challenge.length) :
    (List.zipWith (· ^^^ ·) challenge key.val).length = 8 := by
  rw [List.length_zipWith, key.property]
  exact Nat.min_eq_right h

def foldKey (challenge : Bytes) (key : LoginBlock) : Except Error LoginBlock :=
  if h : 8 ≤ challenge.length then
    .ok ⟨List.zipWith (· ^^^ ·) challenge key.val, length_zipWith_key key h⟩
  else .error (.truncated 8 challenge.length)

def readTime (data : Bytes) : Except Error DateTime := do
  required 7 data
  Bcd.unpackDateTime (data.take 7)

def splitAt (separator : Char) : List Char → List (List Char)
  | [] => [[]]
  | c :: cs =>
    if c = separator then [] :: splitAt separator cs
    else
      match splitAt separator cs with
      | [] => [[c]]
      | part :: parts => (c :: part) :: parts

def readVersionEntry (entry : List Char) : Except Error (String × String) :=
  match entry.span (· ≠ '=') with
  | (name, _ :: version) => .ok (String.ofList name, String.ofList version)
  | (_, []) => .error (.invalidFrame (.versionEntry (String.ofList entry)))

def readFileVersions (data : Bytes) : Except Error (List (String × String)) :=
  match Text.Utf8.decode? data with
  | none => .error (.invalidFrame .versionText)
  | some text =>
    ((splitAt ';' text.toList).map Text.trimChars).filter (¬ ·.isEmpty) |>.mapM readVersionEntry

end ParkingStation.PaymentReader
