import ParkingStation.Antenna.Frame
import ParkingStation.Event

namespace ParkingStation.Antenna

inductive Command
  | setAntennaData (power channel : UInt8)
  | getStatus
  | forceGetUnit
  | stopUnit
  deriving DecidableEq

namespace Command

def category : Command → UInt8
  | setAntennaData .. | getStatus => 0x01
  | forceGetUnit | stopUnit => 0x02

def code : Command → UInt8
  | setAntennaData .. => 0x10
  | getStatus => 0x11
  | forceGetUnit => 0x20
  | stopUnit => 0x21

def name : Command → String
  | setAntennaData .. => "SetAntennaData"
  | getStatus => "GetAntennaStatus"
  | forceGetUnit => "ForceGetIU"
  | stopUnit => "StopIU"

def data : Command → Bytes
  | setAntennaData power channel => [power, channel]
  | _ => []

def nameOf? (category code : UInt8) : Option String :=
  let same (c : Command) : Bool := c.category == category && c.code == code
  ([setAntennaData 0 0, getStatus, forceGetUnit, stopUnit].find? same).map name

def toFrame (dest src seq : UInt8) (c : Command) : Frame :=
  ⟨dest, src, c.category, c.code, seq, 0, c.data⟩

end Command

inductive Reply
  | done
  | status (power channel : UInt8)
  | unit (number : UnitNumber)
  | noUnit
  | rejected (status : UInt8)
  deriving DecidableEq

def Reply.ofData (command : Command) (data : Bytes) : Except Error Reply :=
  match command with
  | .setAntennaData .. | .stopUnit => .ok .done
  | .getStatus =>
    match data with
    | _ :: power :: channel :: _ => .ok (.status power channel)
    | short => .error (.truncated 3 short.length)
  | .forceGetUnit => do
    required 6 data
    let digits ← Bcd.unpack ((data.drop 1).take 5)
    return .unit (← UnitNumber.ofDigits digits)

def Reply.parse (command : Command) (frame : Frame) : Except Error Reply :=
  match Command.nameOf? frame.category frame.command with
  | none => .error (.commandNotRecognized (.antenna frame.category frame.command))
  | some name =>
    if frame.category = command.category ∧ frame.command = command.code then
      match frame.data with
      | [] => .error (.truncated 1 0)
      | first :: _ =>
        if command = .forceGetUnit ∧ first = 0x01 then .ok .noUnit
        else if first = 0x00 then Reply.ofData command frame.data
        else .ok (.rejected first)
    else .error (.unexpectedResponse (.command name command.name))

end ParkingStation.Antenna
