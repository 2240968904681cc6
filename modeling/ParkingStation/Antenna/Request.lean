import ParkingStation.Antenna.Session
import ParkingStation.Exchange.Controller.Basic

namespace ParkingStation.Antenna

open Exchange

inductive Request
  | setAntennaData (power channel : UInt8)
  | getStatus
  | startScanning
  | stopScanning
  deriving DecidableEq

namespace Request

def command : Request → Command
  | setAntennaData power channel => .setAntennaData power channel
  | getStatus => .getStatus
  | startScanning => .forceGetUnit
  | stopScanning => .stopUnit

def prepare (r : Request) (s : Session) : Session :=
  match r with
  | startScanning => s.startScanning
  | stopScanning => s.stopScanning
  | _ => s

def submit {settings : Settings.Antenna} (r : Request) (c : Controller (peripheral settings)) :
    Controller (peripheral settings) :=
  { c with session := r.prepare c.session }.submit r.command

end Request

end ParkingStation.Antenna
