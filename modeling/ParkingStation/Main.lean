import ParkingStation.Settings.Document
import ParkingStation.Settings.Layout

namespace ParkingStation

def content? (path : String) : IO (Option Bytes) := do
  let .ok bytes ← (IO.FS.readBinFile path).toBaseIO | return none
  return some bytes.toList

def checkConfig (path : String) : IO UInt32 := do
  match Settings.load (← content? path) with
  | .ok settings =>
    IO.println settings.describe
    return 0
  | .error e =>
    IO.eprintln ("Error: loading " ++ path ++ "\n\nCaused by:\n    " ++ e.message)
    return 1

end ParkingStation

def main (args : List String) : IO UInt32 := do
  match args with
  | ["check-config"] => ParkingStation.checkConfig "station.toml"
  | ["-c", path, "check-config"] | ["--config", path, "check-config"] => ParkingStation.checkConfig path
  | _ =>
    IO.eprintln "usage: parking-station [--config FILE] check-config"
    return 2
