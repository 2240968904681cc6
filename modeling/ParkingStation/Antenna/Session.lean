import ParkingStation.Antenna.Command
import ParkingStation.Exchange.Peripheral
import ParkingStation.Settings.Basic

namespace ParkingStation.Antenna

open Exchange

structure Session where
  lastUnit : Option UnitNumber := none
  reads : Nat := 0
  scanning : Bool := false
  powered : Bool := false
  deriving DecidableEq

namespace Session

def count (minOkTimes : Nat) (number : UnitNumber) (s : Session) : Bool × Session :=
  let reads := if s.lastUnit = some number then s.reads + 1 else 1
  if reads < minOkTimes then (false, { s with lastUnit := some number, reads := reads })
  else (true, { s with lastUnit := some number, reads := 0, scanning := false })

def startScanning (s : Session) : Session := { s with scanning := true, reads := 0 }

def stopScanning (s : Session) : Session := { s with scanning := false }

def answer (minOkTimes : Nat) (s : Session) (command : Command) : Reply → Verdict Command × Session
  | .done =>
    match command with
    | .setAntennaData power channel =>
      (.done [.power .antenna true, succeeded [("power", toString power.toNat), ("channel", toString channel.toNat)]],
        { s with powered := true })
    | .stopUnit => (.done [succeeded []], s.stopScanning)
    | _ => (.done [succeeded []], s)
  | .rejected status =>
    let detail := "status " ++ Text.hexByte status
    match command with
    | .setAntennaData .. => (.refused .nak detail [.power .antenna false], { s with powered := false })
    | _ => (.refused .nak detail [], s)
  | .status power channel =>
    (.done [succeeded [("power", toString power.toNat), ("channel", toString channel.toNat)]], s)
  | .unit number =>
    match s.count minOkTimes number with
    | (true, next) => (.done [.unitArrived number], next)
    | (false, next) => (.unready [], next)
  | .noUnit => (.unready [], s)
where
  succeeded (fields : Fields) : Event := .succeeded .antenna command.name fields

def judge (minOkTimes : Nat) (s : Session) (command : Command) (frame : Frame) : Verdict Command × Session :=
  match Reply.parse command frame with
  | .error e => (.ofError e, s)
  | .ok reply => s.answer minOkTimes command reply

def asksAgain (s : Session) (command : Command) : Bool := command = .forceGetUnit ∧ s.scanning

def giveUp (s : Session) : Command → List Event × Session
  | .setAntennaData .. => ([.power .antenna false], { s with powered := false })
  | .forceGetUnit => ([], s.stopScanning)
  | _ => ([], s)

end Session

def peripheral (settings : Settings.Antenna) : Peripheral where
  Command := Command
  Chunk := Empty
  Session := Session
  Scan := Scan
  Frame := Frame
  commandEq := inferInstance
  device := .antenna
  scanner := scanner .reflected
  acknowledged := false
  enquiry := none
  name := Command.name
  request command seq := .ok (command.toFrame settings.destId settings.sourceId seq)
  chunkRequest chunk _ := nomatch chunk
  judge := Session.judge settings.minOkTimes
  judgeChunk chunk _ := nomatch chunk
  asksAgain := Session.asksAgain
  giveUp session command _ := session.giveUp command

end ParkingStation.Antenna
