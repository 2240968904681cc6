import ParkingStation.PaymentReader.Session
import ParkingStation.Exchange.Controller.Basic

namespace ParkingStation.PaymentReader

open Exchange

inductive Request
  | getStatus
  | login
  | logout
  | getCardId
  | getCardBalance
  | deduct (amount : UInt32)
  | stopScanning
  | getTime
  | setTime (time : DateTime)
  | getFileVersions
  | uploadFile (kind : FileKind) (data : Bytes)
  deriving DecidableEq

namespace Request

def command? : Request → Option Command
  | getStatus => some .getStatus
  | login => some .login1
  | logout => some .logout
  | getCardId => some .getCardId
  | getCardBalance => some .getCardBalance
  | deduct amount => some (.deduct amount)
  | getTime => some .getTime
  | setTime time => some (.setTime time)
  | getFileVersions => some .getFileVersions
  | stopScanning | uploadFile .. => none

def prepare (r : Request) (s : Session) : Session :=
  match r with
  | getCardId | getCardBalance | deduct _ => s.startScanning
  | stopScanning => s.stopScanning
  | _ => s

variable {key : LoginBlock}

def submit (r : Request) (c : Controller (peripheral key)) : Controller (peripheral key) :=
  let c := { c with session := r.prepare c.session }
  match r.command? with
  | some command => c.submit command
  | none => c

def upload (kind : FileKind) (data : Bytes) (size : Nat) (c : Controller (peripheral key)) :
    Except Error Nat × Controller (peripheral key) :=
  match splitFile kind data size with
  | .ok chunks => c.submitUpload chunks
  | .error err => (.error err, c)

end Request

end ParkingStation.PaymentReader
