import ParkingStation.Checksum
import ParkingStation.Framing.Scanner

/-! An attention byte, a type whose top bit marks replies, the length of the whole frame in two bytes, the
payload, and a checksum of all before it with the high byte first. -/

namespace ParkingStation.PaymentReader

open Framing

structure Frame where
  response : Bool
  kind : UInt8
  payload : Bytes
  deriving DecidableEq

def attention : UInt8 := 0xaa
def responseBit : UInt8 := 0x80
def headerLength : Nat := 4
def minFrame : Nat := 6
def maxFrame : Nat := 1024

inductive Scan
  | waiting
  | header (seen : Bytes)
  | body (left : Nat) (seen : Bytes)
  deriving DecidableEq

def highFirst (w : UInt16) : Bytes := [(w >>> 8).toUInt8, w.toUInt8]

def conclude (algorithm : Checksum.Algorithm) : Bytes → Signal Frame
  | low :: high :: seen =>
    let checked := seen.reverse
    let received := Bytes.word high low
    let computed := algorithm.sum checked
    if computed = received then
      match checked with
      | _ :: code :: _ :: _ :: payload => .frame ⟨code &&& responseBit ≠ 0, code &&& ~~~ responseBit, payload⟩
      | _ => .lost
    else .corrupt (.checksum computed received)
  | _ => .lost

def step (algorithm : Checksum.Algorithm) : Scan → UInt8 → Scan × Signal Frame
  | .waiting, b => (if b = attention then .header [b] else .waiting, .more)
  | .header [high, code, start], low =>
    let total := (Bytes.word high low).toNat
    if minFrame ≤ total ∧ total ≤ maxFrame then (.body (total - headerLength) [low, high, code, start], .more)
    else (.waiting, .lost)
  | .header seen, b => (.header (b :: seen), .more)
  | .body left seen, b =>
    if left ≤ 1 then (.waiting, conclude algorithm (b :: seen)) else (.body (left - 1) (b :: seen), .more)

def checked (f : Frame) : Bytes :=
  let code := (if f.response then responseBit else 0) ||| (f.kind &&& ~~~ responseBit)
  attention :: code :: highFirst (UInt16.ofNat (minFrame + f.payload.length)) ++ f.payload

def wire (algorithm : Checksum.Algorithm) (f : Frame) : Bytes :=
  checked f ++ highFirst (algorithm.sum (checked f))

def encode (algorithm : Checksum.Algorithm) (f : Frame) : Except Error Bytes :=
  let total := minFrame + f.payload.length
  if total ≤ maxFrame then .ok (wire algorithm f) else .error (.frameTooLarge total maxFrame)

def scanner (algorithm : Checksum.Algorithm) : Scanner Scan Frame where
  start := .waiting
  step := step algorithm
  idle scan := scan = .waiting
  stalled _ := none
  limit := maxFrame
  encode := encode algorithm

end ParkingStation.PaymentReader
