import ParkingStation.Bytes

namespace ParkingStation.Checksum

def reflectedBit (r : UInt16) : UInt16 :=
  if r &&& 1 ≠ 0 then (r >>> 1) ^^^ 0x8408 else r >>> 1

def shifted {α : Type} (bit : α → α) : Nat → α → α
  | 0, r => r
  | n + 1, r => shifted bit n (bit r)

def reflectedByte (r : UInt16) (b : UInt8) : UInt16 :=
  shifted reflectedBit 8 (r ^^^ b.toUInt16)

def reflected (bs : Bytes) : UInt16 :=
  ~~~ bs.foldl reflectedByte 0xffff

abbrev Halves := UInt8 × UInt8

def halvesBit : Halves → Halves
  | (high, low) =>
    let high' := (high <<< 1) ||| (low >>> 7)
    let low' := low <<< 1
    if high &&& 0x80 ≠ 0 then (high' ^^^ 0x10, low' ^^^ 0x21) else (high', low')

def halvesByte (r : Halves) (b : UInt8) : Halves :=
  shifted halvesBit 8 (r.1 ^^^ b, r.2)

def forward (bs : Bytes) : UInt16 :=
  let (high, low) := bs.foldl halvesByte (0xff, 0xff)
  Bytes.word high low

def block (seed : UInt8) (bs : Bytes) : UInt8 :=
  bs.foldl (· ^^^ ·) seed

def messageBits (bs : Bytes) : List Bool :=
  bs.flatMap fun b => (List.range 8).map fun i => (b >>> UInt8.ofNat (7 - i)) &&& 1 ≠ 0

def remainderBit (r : UInt16) (bit : Bool) : UInt16 :=
  if (r &&& 0x8000 ≠ 0) ≠ bit then (r <<< 1) ^^^ 0x1021 else r <<< 1

def remainder (bs : Bytes) : UInt16 :=
  (messageBits bs).foldl remainderBit 0xffff

@[simp] theorem block_nil (seed : UInt8) : block seed [] = seed := rfl

@[simp] theorem block_cons (seed b : UInt8) (bs : Bytes) : block seed (b :: bs) = block (seed ^^^ b) bs := rfl

@[simp] theorem block_append (seed : UInt8) (bs cs : Bytes) :
    block seed (bs ++ cs) = block (block seed bs) cs := List.foldl_append

inductive Algorithm
  | reflected
  | forward
  | block
  deriving DecidableEq

namespace Algorithm

def sum : Algorithm → Bytes → UInt16
  | reflected, bs => Checksum.reflected bs
  | forward, bs => Checksum.forward bs
  | block, bs => (Checksum.block Control.stx bs).toUInt16

def width : Algorithm → Nat
  | reflected | forward => 2
  | block => 1

end Algorithm

end ParkingStation.Checksum
