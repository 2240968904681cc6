import ParkingStation.Checksum
import ParkingStation.Framing.Scanner

/-! Bodies are not escaped: an end-of-text byte ends the frame only if the byte after it is the exclusive or of
all before it. Otherwise it is data, or a bad block check if nothing follows. -/

namespace ParkingStation.CardReader

open Framing Control

structure Frame where
  kind : UInt8
  cm : UInt8
  pm : UInt8
  data : Bytes
  deriving DecidableEq

def maxBody : Nat := 512

def maxFrame : Nat := maxBody + 3

def Frame.ofBody : Bytes → Except Fault Frame
  | kind :: cm :: pm :: data => .ok ⟨kind, cm, pm, data⟩
  | short => .error (.malformed (.cardReaderBody short.length))

inductive Scan
  | outside
  | inside (body : Bytes) (check : UInt8) (pending : Option Fault)
  deriving DecidableEq

def conclude (body : Bytes) : Signal Frame :=
  match Frame.ofBody body with
  | .ok frame => .frame frame
  | .error fault => .corrupt fault

def step : Scan → UInt8 → Scan × Signal Frame
  | .outside, b =>
    if b = stx then (.inside [] stx none, .more)
    else if b = Control.ack then (.outside, .ack)
    else if b = nak then (.outside, .nak)
    else (.outside, .more)
  | .inside body check _, b =>
    let ended := body.head? = some etx
    if ended ∧ b = check then (.outside, conclude body.tail.reverse)
    else if body.length < maxBody then
      let pending : Option Fault :=
        if ended ∧ 4 ≤ body.length then some (.checksum check.toUInt16 b.toUInt16) else none
      (.inside (b :: body) (check ^^^ b) pending, .more)
    else (.outside, .corrupt (.overflow (body.length + 1)))

def stalled : Scan → Option Fault
  | .outside => none
  | .inside _ _ pending => pending

def checked (f : Frame) : Bytes := stx :: f.kind :: f.cm :: f.pm :: f.data ++ [etx]

def wire (f : Frame) : Bytes := checked f ++ [Checksum.block 0 (checked f)]

def encode (f : Frame) : Except Error Bytes :=
  if f.data.length + 3 ≤ maxBody then .ok (wire f) else .error (.frameTooLarge (f.data.length + 3) maxBody)

def scanner : Scanner Scan Frame where
  start := .outside
  step := step
  idle scan := scan = .outside
  stalled := stalled
  limit := maxFrame
  encode := encode

end ParkingStation.CardReader
