import ParkingStation.Error
import ParkingStation.Bcd

namespace ParkingStation

abbrev Fields := List (String × String)

def Fields.text (fields : Fields) : String :=
  ",".intercalate (fields.map fun (name, value) => name ++ "=" ++ value)

def Fields.get? (fields : Fields) (name : String) : Option String := List.lookup name fields

def required (n : Nat) (data : Bytes) : Except Error Unit :=
  if n ≤ data.length then .ok () else .error (.truncated n data.length)

structure Card where
  id : String
  balance : Int
  expiry : Date
  deriving DecidableEq

namespace Card

def length : Nat := 16

def parse (data : Bytes) : Except Error Card := do
  required length data
  let id ← Bcd.unpack (data.take 8)
  let expiry ← Bcd.unpackDate ((data.drop 12).take 4)
  return ⟨id, Bytes.toInt ((data.drop 8).take 4), expiry⟩

def fields (card : Card) : Fields :=
  [("card_id", card.id), ("balance", toString card.balance), ("expiry", card.expiry.text)]

end Card

structure UnitNumber where
  digits : String
  valid : digits.toList.length = 10 ∧ digits.toList.all Bcd.isDigit = true
  deriving DecidableEq

def UnitNumber.ofDigits (digits : String) : Except Error UnitNumber :=
  if h : digits.toList.length = 10 ∧ digits.toList.all Bcd.isDigit = true then .ok ⟨digits, h⟩
  else .error (.invalidFrame (.unitNumber digits))

inductive Event
  | power (device : Device) (on : Bool)
  | unitArrived (number : UnitNumber)
  | succeeded (device : Device) (command : String) (fields : Fields)
  | failed (device : Device) (command : String) (reason : Reason) (detail : String)
  | fault (device : Device) (command : String) (reason : Reason)
  | uploaded (device : Device) (chunks : Nat)
  | uploadFailed (device : Device) (chunk : Nat) (reason : Reason) (detail : String)
  deriving DecidableEq

namespace Event

def device : Event → Device
  | unitArrived _ => .antenna
  | power device _ | succeeded device .. | failed device .. | fault device .. | uploaded device _
  | uploadFailed device .. => device

def text : Event → String
  | power device on => device.title ++ " power=" ++ (if on then "1" else "0")
  | unitArrived number => "Antenna iu=" ++ number.digits
  | succeeded device command fields =>
    device.title ++ " " ++ command ++ " ok" ++ (if fields.isEmpty then "" else " " ++ fields.text)
  | failed device command reason detail =>
    device.title ++ " " ++ command ++ " failed reason=" ++ reason.code ++ " " ++ detail
  | fault device command reason => device.title ++ " fault during " ++ command ++ " reason=" ++ reason.code
  | uploaded device chunks => device.title ++ " upload complete chunks=" ++ toString chunks
  | uploadFailed device chunk reason detail =>
    device.title ++ " upload failed chunk=" ++ toString chunk ++ " reason=" ++ reason.code ++ " " ++ detail

end Event

def nextSequence (last : UInt8) : UInt8 :=
  if last = 255 then 1 else last + 1

end ParkingStation
