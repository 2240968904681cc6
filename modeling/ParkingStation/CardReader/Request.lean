import ParkingStation.CardReader.Session
import ParkingStation.Exchange.Controller.Basic

namespace ParkingStation.CardReader

open Exchange

inductive Request
  | init
  | getStatus
  | detectCard
  | stopDetect
  | readCard
  | ejectCard
  | captureCard
  | getVersion
  deriving DecidableEq

namespace Request

def command? : Request → Option Command
  | init => some .init
  | getStatus => some .getStatus
  | detectCard => some .detectCard
  | stopDetect => none
  | readCard => some .readCard
  | ejectCard => some .ejectCard
  | captureCard => some .captureCard
  | getVersion => some .getVersion

def prepare (r : Request) (s : Session) : Session :=
  match r with
  | detectCard => s.startScanning
  | stopDetect => s.stopScanning
  | _ => s

def submit (r : Request) (c : Controller peripheral) : Controller peripheral :=
  let c := { c with session := r.prepare c.session }
  match r.command? with
  | some command => c.submit command
  | none => c

end Request

end ParkingStation.CardReader
