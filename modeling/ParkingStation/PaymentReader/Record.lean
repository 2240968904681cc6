import ParkingStation.Event

/-! Twenty bytes each: card number, amount and balance in three bytes, seconds in four, then four bits of type,
one that tells an automatic reload, and eleven of counter. -/

namespace ParkingStation.PaymentReader

structure Record where
  cardId : String
  amount : Nat
  balanceAfter : Nat
  time : DateTime
  type : Nat
  autoLoad : Bool
  counter : Nat
  deriving DecidableEq

namespace Record

def length : Nat := 20

def epoch : Date := ⟨1995, 1, 1, by decide⟩

def parse (data : Bytes) : Except Error Record := do
  required length data
  let cardId ← Bcd.unpack (data.take 8)
  let flags := Bytes.toNat ((data.drop 18).take 2)
  return {
    cardId
    amount := Bytes.toNat ((data.drop 8).take 3)
    balanceAfter := Bytes.toNat ((data.drop 11).take 3)
    time := .afterMidnight epoch (Bytes.toNat ((data.drop 14).take 4))
    type := flags / 4096
    autoLoad := flags / 2048 % 2 = 1
    counter := flags % 2048 }

def flags (r : Record) : Nat := r.type * 4096 + (if r.autoLoad then 2048 else 0) + r.counter

def encode (r : Record) : Except Error Bytes := do
  let cardId ← Bcd.pack r.cardId
  return cardId ++ Bytes.ofNat 3 r.amount ++ Bytes.ofNat 3 r.balanceAfter ++
    Bytes.ofNat 4 (r.time.secondsSince epoch).toNat ++ Bytes.ofNat 2 r.flags

def fields (r : Record) : Fields :=
  [("card_id", r.cardId), ("amount", toString r.amount), ("balance", toString r.balanceAfter), ("time", r.time.text),
    ("type", toString r.type), ("auto_load", if r.autoLoad then "1" else "0"), ("counter", toString r.counter)]

end Record

end ParkingStation.PaymentReader
