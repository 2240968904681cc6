import ParkingStation.Bytes

/-! A text is a list of characters and of breaks, a break being the longest run of bytes that starts some
character and is not completed. -/

namespace ParkingStation.Text.Utf8

inductive State
  | start
  | inside (owed : Nat) (low high : UInt8) (bits : Nat)

abbrev Piece := Option Char

def lead (b : UInt8) : List Piece × State :=
  if b ≤ 0x7f then ([some (Char.ofNat b.toNat)], .start)
  else if 0xc2 ≤ b ∧ b ≤ 0xdf then ([], .inside 0 0x80 0xbf (b.toNat % 32))
  else if b = 0xe0 then ([], .inside 1 0xa0 0xbf 0)
  else if b = 0xed then ([], .inside 1 0x80 0x9f 13)
  else if 0xe1 ≤ b ∧ b ≤ 0xef then ([], .inside 1 0x80 0xbf (b.toNat % 16))
  else if b = 0xf0 then ([], .inside 2 0x90 0xbf 0)
  else if 0xf1 ≤ b ∧ b ≤ 0xf3 then ([], .inside 2 0x80 0xbf (b.toNat % 8))
  else if b = 0xf4 then ([], .inside 2 0x80 0x8f 4)
  else ([none], .start)

def step : State → UInt8 → List Piece × State
  | .start, b => lead b
  | .inside owed low high bits, b =>
    if low ≤ b ∧ b ≤ high then
      let bits := bits * 64 + b.toNat % 64
      match owed with
      | 0 => ([some (Char.ofNat bits)], .start)
      | owed + 1 => ([], .inside owed 0x80 0xbf bits)
    else
      let (pieces, state) := lead b
      (none :: pieces, state)

def piecesFrom : State → Bytes → List Piece
  | .start, [] => []
  | .inside .., [] => [none]
  | state, b :: bs =>
    let (pieces, next) := step state b
    pieces ++ piecesFrom next bs

def pieces (bs : Bytes) : List Piece := piecesFrom .start bs

def decode? (bs : Bytes) : Option String := ((pieces bs).mapM id).map String.ofList

def decodeLossy (bs : Bytes) : String := String.ofList ((pieces bs).map (·.getD '\ufffd'))

def encode (s : String) : Bytes := s.toUTF8.toList

end ParkingStation.Text.Utf8
