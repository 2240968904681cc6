import ParkingStation.CardReader.Command
import ParkingStation.Exchange.Peripheral

namespace ParkingStation.CardReader

open Exchange

structure Session where
  presence : Option Presence := none
  lastCard : Option Card := none
  version : Option String := none
  scanning : Bool := false
  powered : Bool := false
  deriving DecidableEq

namespace Session

def cardPresent (s : Session) : Bool := s.presence.any (·.isPresent)

def startScanning (s : Session) : Session := { s with scanning := true }

def stopScanning (s : Session) : Session := { s with scanning := false }

def accept (s : Session) (command : Command) (status : UInt8) (data : Bytes) :
    Except Error (Verdict Command × Session) :=
  match command with
  | .init => .ok (.done [.power .cardReader true, succeeded []], { s with powered := true })
  | .getStatus => do
    let presence ← Presence.ofStatus status
    return (.done [succeeded [("card", presence.name)]], { s with presence := some presence })
  | .detectCard => do
    let presence ← Presence.ofStatus status
    if presence.isPresent then
      return (.done [succeeded [("card", presence.name)]], { s with presence := some presence, scanning := false })
    else return (.unready [], { s with presence := some presence })
  | .readCard => do
    let card ← Card.parse data
    return (.done [succeeded card.fields], { s with lastCard := some card })
  | .ejectCard | .captureCard => .ok (.done [succeeded []], { s with presence := some .noCard })
  | .getVersion =>
    let version := Text.trim (Text.Utf8.decodeLossy data)
    .ok (.done [succeeded [("version", version)]], { s with version := some version })
where
  succeeded (fields : Fields) : Event := .succeeded .cardReader command.name fields

def unpowered (s : Session) : List Event × Session := ([.power .cardReader false], { s with powered := false })

def answer (s : Session) (command : Command) : Reply → Verdict Command × Session
  | .negative _ code =>
    let detail := "error code " ++ code
    match command with
    | .init => (.refused .nak detail s.unpowered.1, s.unpowered.2)
    | _ => (.refused .nak detail [], s)
  | .positive _ status _ data =>
    match s.accept command status data with
    | .ok result => result
    | .error e => (.ofError e, s)

def judge (s : Session) (command : Command) (frame : Frame) : Verdict Command × Session :=
  match Reply.parse frame with
  | .error e => (.ofError e, s)
  | .ok reply =>
    if reply.command = command then s.answer command reply
    else (.unrelated (Mismatch.command reply.command.name command.name).message, s)

def asksAgain (s : Session) (command : Command) : Bool := command = .detectCard ∧ s.scanning

def giveUp (s : Session) : Command → List Event × Session
  | .init => s.unpowered
  | .detectCard => ([], s.stopScanning)
  | _ => ([], s)

end Session

def peripheral : Peripheral where
  Command := Command
  Chunk := Empty
  Session := Session
  Scan := Scan
  Frame := Frame
  commandEq := inferInstance
  device := .cardReader
  scanner := scanner
  acknowledged := true
  enquiry := some [Control.enq]
  name := Command.name
  request command _ := .ok command.toFrame
  chunkRequest chunk _ := nomatch chunk
  judge := Session.judge
  judgeChunk chunk _ := nomatch chunk
  asksAgain := Session.asksAgain
  giveUp session command _ := session.giveUp command

end ParkingStation.CardReader
