import ParkingStation.Calendar
import ParkingStation.Error

namespace ParkingStation.Bcd

def digitChar (n : UInt8) : Char := Char.ofNat (48 + n.toNat)

def isDigit (c : Char) : Bool := '0' ≤ c && c ≤ '9'

def digitValue (c : Char) : Nat := c.toNat - 48

def unpackChars : Bytes → Except Error (List Char)
  | [] => .ok []
  | b :: bs =>
    if b >>> 4 ≤ 9 ∧ b &&& 15 ≤ 9 then (unpackChars bs).map (digitChar (b >>> 4) :: digitChar (b &&& 15) :: ·)
    else .error (.invalidFrame (.bcdByte b))

def packChars? : List Char → Option Bytes
  | [] => some []
  | [_] => none
  | high :: low :: cs =>
    if isDigit high && isDigit low then
      (packChars? cs).map (UInt8.ofNat (digitValue high * 16 + digitValue low) :: ·)
    else none

def unpack (bs : Bytes) : Except Error String :=
  (unpackChars bs).map String.ofList

def pack (digits : String) : Except Error Bytes :=
  match packChars? digits.toList with
  | some bs => .ok bs
  | none => .error (.invalidFrame (.bcdDigits digits))

def valueOf (cs : List Char) : Nat :=
  cs.foldl (fun n c => n * 10 + digitValue c) 0

def unpackDate (bs : Bytes) : Except Error Date :=
  match unpackChars bs with
  | .error e => .error e
  | .ok cs =>
    if cs.length = 8 then
      match Date.of? (valueOf (cs.take 4)) (valueOf ((cs.drop 4).take 2)) (valueOf (cs.drop 6)) with
      | some date => .ok date
      | none => .error (.invalidFrame (.date (String.ofList cs)))
    else .error (.truncated 4 bs.length)

def unpackDateTime (bs : Bytes) : Except Error DateTime :=
  match unpackChars bs with
  | .error e => .error e
  | .ok cs =>
    if cs.length = 14 then
      match unpackDate (bs.take 4) with
      | .error e => .error e
      | .ok date =>
        let pair (i : Nat) : Nat := valueOf ((cs.drop i).take 2)
        match DateTime.of? date (pair 8) (pair 10) (pair 12) with
        | some time => .ok time
        | none => .error (.invalidFrame (.time (String.ofList cs)))
    else .error (.truncated 7 bs.length)

def packDateTime (time : DateTime) : Except Error Bytes :=
  pack time.digits

end ParkingStation.Bcd
