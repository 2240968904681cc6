import ParkingStation.CardReader.Frame
import ParkingStation.Event
import ParkingStation.Text.Utf8

namespace ParkingStation.CardReader

inductive Command
  | init
  | getStatus
  | detectCard
  | readCard
  | ejectCard
  | captureCard
  | getVersion
  deriving DecidableEq

namespace Command

def all : List Command := [init, getStatus, detectCard, readCard, ejectCard, captureCard, getVersion]

def code : Command → UInt8 × UInt8
  | init => (0x30, 0x30)
  | getStatus => (0x31, 0x30)
  | detectCard => (0x32, 0x30)
  | readCard => (0x33, 0x30)
  | ejectCard => (0x34, 0x30)
  | captureCard => (0x34, 0x31)
  | getVersion => (0x35, 0x30)

def ofCode? (cm pm : UInt8) : Option Command := all.find? fun c => c.code == (cm, pm)

def name : Command → String
  | init => "Init"
  | getStatus => "GetStatus"
  | detectCard => "DetectCard"
  | readCard => "ReadCard"
  | ejectCard => "EjectCard"
  | captureCard => "CaptureCard"
  | getVersion => "GetVersion"

def toFrame (c : Command) : Frame := ⟨0x43, c.code.1, c.code.2, []⟩

end Command

inductive Reply
  | positive (command : Command) (st1 st0 : UInt8) (data : Bytes)
  | negative (command : Command) (code : String)
  deriving DecidableEq

namespace Reply

def command : Reply → Command
  | positive command .. | negative command _ => command

def parse (frame : Frame) : Except Error Reply :=
  match Command.ofCode? frame.cm frame.pm with
  | none => .error (.commandNotRecognized (.cardReader frame.cm frame.pm))
  | some command =>
    match frame.data with
    | first :: second :: data =>
      if frame.kind = 0x50 then .ok (.positive command first second data)
      else if frame.kind = 0x4e then .ok (.negative command (Text.Utf8.decodeLossy [first, second]))
      else .error (.unexpectedResponse (.frameKind frame.kind))
    | short => .error (.truncated 2 short.length)

end Reply

inductive Presence
  | noCard
  | atGate
  | inPosition
  deriving DecidableEq

namespace Presence

def ofStatus (status : UInt8) : Except Error Presence :=
  if status = 0x30 then .ok .noCard
  else if status = 0x31 then .ok .atGate
  else if status = 0x32 then .ok .inPosition
  else .error (.invalidFrame (.cardPresence status))

def isPresent (p : Presence) : Bool := p ≠ .noCard

def name : Presence → String
  | noCard => "none"
  | atGate => "at_gate"
  | inPosition => "in_position"

end Presence

end ParkingStation.CardReader
