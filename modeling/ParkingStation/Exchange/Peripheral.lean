import ParkingStation.Event
import ParkingStation.Framing.Scanner

/-! What tells one peripheral from another: its line, its commands, and how a frame answers them. -/

namespace ParkingStation.Exchange

inductive Verdict (C : Type)
  | answered (events : List Event) (followUps : List C)
  /-- Nothing to report yet; asked again while the peripheral keeps scanning. -/
  | unready (events : List Event)
  | refused (reason : Reason) (detail : String) (events : List Event)
  | again (reason : Reason) (detail : String)
  | unrelated (detail : String)
  deriving DecidableEq

namespace Verdict

variable {C : Type}

def done (events : List Event) : Verdict C := .answered events []

def ofError (e : Error) : Verdict C :=
  if e.isUnrelated then .unrelated e.message else .refused e.reason e.message []

end Verdict

inductive ChunkVerdict
  | accepted
  | again (reason : Reason) (detail : String)
  | refused (reason : Reason) (detail : String)
  | unrelated (detail : String)
  deriving DecidableEq

structure Peripheral where
  Command : Type
  Chunk : Type
  Session : Type
  Scan : Type
  Frame : Type
  commandEq : DecidableEq Command
  device : Device
  scanner : Framing.Scanner Scan Frame
  acknowledged : Bool
  /-- Bytes that collect the answer after the acknowledgement. -/
  enquiry : Option Bytes
  name : Command → String
  request : Command → UInt8 → Except Error Frame
  chunkRequest : Chunk → UInt8 → Except Error Frame
  judge : Session → Command → Frame → Verdict Command × Session
  judgeChunk : Chunk → Frame → ChunkVerdict
  asksAgain : Session → Command → Bool
  giveUp : Session → Command → Reason → List Event × Session

instance (p : Peripheral) : DecidableEq p.Command := p.commandEq

end ParkingStation.Exchange
