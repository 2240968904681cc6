import ParkingStation.Bytes

/-! A pipe of bounded size each way. The station writes and reads when it acts, and in between the peripheral
takes what was written, unless it holds the line, and sends on. -/

namespace ParkingStation.Station

structure Line where
  capacity : Nat := 4096
  outbound : Bytes := []
  inbound : Bytes := []
  unsent : Bytes := []
  window : Nat := 1024
  held : Bool := false
  closed : Bool := false
  received : Bytes := []
  deriving DecidableEq

namespace Line

def put (bs : Bytes) (line : Line) : Bytes × Line :=
  let room := line.capacity - line.outbound.length
  (bs.drop room, { line with outbound := line.outbound ++ bs.take room })

def read (line : Line) : Bytes × Line :=
  let left := line.window - line.inbound.length
  (line.inbound.take line.window,
    { line with inbound := line.inbound.drop line.window, window := if left = 0 then 1024 else left })

def take (line : Line) : Line := { line with received := line.received ++ line.outbound, outbound := [] }

def fill (line : Line) : Line :=
  let room := line.capacity - line.inbound.length
  { line with inbound := line.inbound ++ line.unsent.take room, unsent := line.unsent.drop room }

def turn? (line : Line) : Option Line :=
  if !line.held && !line.outbound.isEmpty then some line.take.fill
  else if !line.unsent.isEmpty && line.inbound.length < line.capacity then some line.fill
  else none

def hold (line : Line) : Line := { line with held := true }

def release (line : Line) : Line := { line with held := false }

def close (line : Line) : Line := { line with closed := true, held := false, outbound := [], unsent := [] }

def send (bs : Bytes) (line : Line) : Line :=
  if line.closed then line else { line with unsent := line.unsent ++ bs }.fill

theorem length_outbound_put_le {bs : Bytes} {line : Line} (h : line.outbound.length ≤ line.capacity) :
    (line.put bs).2.outbound.length ≤ line.capacity := by
  simp [put]
  omega

theorem length_inbound_fill_le {line : Line} (h : line.inbound.length ≤ line.capacity) :
    line.fill.inbound.length ≤ line.capacity := by
  simp [fill]
  omega

end Line

end ParkingStation.Station
