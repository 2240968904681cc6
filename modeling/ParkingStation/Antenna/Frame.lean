import ParkingStation.Checksum
import ParkingStation.Framing.Scanner

/-! A body stands between two escaped marks, every escape byte inside it is doubled, and two checksum bytes
follow, the low one first. The sum covers the plain body and the end-of-text byte. -/

namespace ParkingStation.Antenna

open Framing Control

structure Frame where
  dest : UInt8
  src : UInt8
  category : UInt8
  command : UInt8
  seq : UInt8
  rfu : UInt8
  data : Bytes
  deriving DecidableEq

def headerLength : Nat := 7
def maxData : Nat := 255
def maxBody : Nat := headerLength + maxData

def maxFrame : Nat := 2 + maxBody * 2 + 2 + 2

namespace Frame

def body (f : Frame) : Bytes :=
  [f.dest, f.src, f.category, f.command, f.seq, f.rfu, UInt8.ofNat f.data.length] ++ f.data

def ofBody : Bytes → Except Fault Frame
  | dest :: src :: category :: command :: seq :: rfu :: length :: data =>
    if data.length = length.toNat then .ok ⟨dest, src, category, command, seq, rfu, data⟩
    else .error (.malformed (.antennaLength length.toNat data.length))
  | short => .error (.malformed (.antennaHeader short.length))

end Frame

inductive Scan
  | waiting
  | afterEscape
  | inBody (body : Bytes)
  | escaped (body : Bytes)
  | sumLow (body : Bytes)
  | sumHigh (body : Bytes) (low : UInt8)
  deriving DecidableEq

def extend (body : Bytes) (b : UInt8) : Scan × Signal Frame :=
  if body.length < maxBody then (.inBody (b :: body), .more)
  else (.waiting, .corrupt (.overflow (body.length + 1)))

def conclude (algorithm : Checksum.Algorithm) (body : Bytes) (low high : UInt8) : Signal Frame :=
  let computed := algorithm.sum (body ++ [etx])
  let received := Bytes.word high low
  if computed = received then
    match Frame.ofBody body with
    | .ok frame => .frame frame
    | .error fault => .corrupt fault
  else .corrupt (.checksum computed received)

def step (algorithm : Checksum.Algorithm) : Scan → UInt8 → Scan × Signal Frame
  | .waiting, b => (if b = dle then .afterEscape else .waiting, .more)
  | .afterEscape, b =>
    if b = stx then (.inBody [], .more)
    else if b = dle then (.afterEscape, .more)
    else (.waiting, .lost)
  | .inBody body, b => if b = dle then (.escaped body, .more) else extend body b
  | .escaped body, b =>
    if b = stx then (.inBody [], .more)
    else if b = etx then (.sumLow body, .more)
    else if b = dle then extend body dle
    else (.waiting, .lost)
  | .sumLow body, b => (.sumHigh body b, .more)
  | .sumHigh body low, b => (.waiting, conclude algorithm body.reverse low b)

def doubled : Bytes → Bytes
  | [] => []
  | b :: bs => if b = dle then dle :: dle :: doubled bs else b :: doubled bs

def lowFirst (w : UInt16) : Bytes := [w.toUInt8, (w >>> 8).toUInt8]

def wire (algorithm : Checksum.Algorithm) (f : Frame) : Bytes :=
  [dle, stx] ++ doubled f.body ++ [dle, etx] ++ lowFirst (algorithm.sum (f.body ++ [etx]))

def encode (algorithm : Checksum.Algorithm) (f : Frame) : Except Error Bytes :=
  if f.data.length ≤ maxData then .ok (wire algorithm f) else .error (.frameTooLarge f.data.length maxData)

def scanner (algorithm : Checksum.Algorithm) : Scanner Scan Frame where
  start := .waiting
  step := step algorithm
  idle scan := scan = .waiting
  stalled _ := none
  limit := maxFrame
  encode := encode algorithm

end ParkingStation.Antenna
