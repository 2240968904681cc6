import ParkingStation.PaymentReader.File

namespace ParkingStation.Settings

inductive Parity
  | none
  | odd
  | even
  deriving DecidableEq

structure Serial where
  port : String := ""
  baudRate : Nat := 9600
  parity : Parity := .none
  stopBits : Nat := 1
  dataBits : Nat := 8
  deriving DecidableEq

structure Timing where
  writeTimeout : Nat := 500
  ackTimeout : Nat := 300
  responseTimeout : Nat := 2000
  maxRetries : Nat := 3
  maxPollAttempts : Nat := 50
  interFrameDelay : Nat := 200
  frameGap : Nat := 50
  deriving DecidableEq

structure Antenna where
  enabled : Bool := true
  serial : Serial := {}
  timing : Timing := {}
  minOkTimes : Nat := 2
  sourceId : UInt8 := 0x01
  destId : UInt8 := 0x80
  deriving DecidableEq

structure CardReader where
  enabled : Bool := true
  serial : Serial := {}
  timing : Timing := {}
  deriving DecidableEq

structure PaymentReader where
  enabled : Bool := true
  serial : Serial := {}
  timing : Timing := {}
  loginKey : String := "0000000000000000"
  chunkSize : Nat := 200
  deriving DecidableEq

end ParkingStation.Settings

namespace ParkingStation

structure Settings where
  antenna : Settings.Antenna := {}
  cardReader : Settings.CardReader := {}
  paymentReader : Settings.PaymentReader := {}
  deriving DecidableEq

end ParkingStation
