import ParkingStation.Error

namespace ParkingStation.Framing

inductive Fault
  | checksum (expected actual : UInt16)
  | malformed (defect : Defect)
  | overflow (size : Nat)
  deriving DecidableEq

namespace Fault

def message : Fault → String
  | checksum expected actual =>
    "checksum mismatch: expected " ++ Text.hexWord expected ++ ", got " ++ Text.hexWord actual
  | malformed defect => "malformed frame: " ++ defect.message
  | overflow size => "frame overflow at " ++ toString size ++ " bytes"

def toError (limit : Nat) : Fault → Error
  | checksum expected actual => .checksum expected actual
  | malformed defect => .invalidFrame defect
  | overflow size => .frameTooLarge size limit

end Fault

inductive Signal (F : Type)
  | more
  | frame (frame : F)
  | ack
  | nak
  | lost
  | corrupt (fault : Fault)
  deriving DecidableEq

structure Scanner (S F : Type) where
  start : S
  step : S → UInt8 → S × Signal F
  idle : S → Bool
  stalled : S → Option Fault
  limit : Nat
  encode : F → Except Error Bytes

variable {S F : Type}

def Scanner.trace (scanner : Scanner S F) (state : S) : Bytes → List (Signal F) × S
  | [] => ([], state)
  | b :: bs =>
    let (next, signal) := scanner.step state b
    let (signals, last) := scanner.trace next bs
    (signal :: signals, last)

def Scanner.encodeAll (scanner : Scanner S F) : List F → Except Error Bytes
  | [] => .ok []
  | f :: fs =>
    match scanner.encode f with
    | .error e => .error e
    | .ok wire => (scanner.encodeAll fs).map (wire ++ ·)

theorem Scanner.trace_append (scanner : Scanner S F) (state : S) (as bs : Bytes) :
    scanner.trace state (as ++ bs) =
      ((scanner.trace state as).1 ++ (scanner.trace (scanner.trace state as).2 bs).1,
        (scanner.trace (scanner.trace state as).2 bs).2) := by
  induction as generalizing state with
  | nil => rfl
  | cons a as ih => simp [Scanner.trace, ih]

theorem Scanner.trace_getElem? (scanner : Scanner S F) (state : S) {bs : Bytes} {i : Nat} {b : UInt8}
    (h : bs[i]? = some b) :
    (scanner.trace state bs).1[i]? = some (scanner.step (scanner.trace state (bs.take i)).2 b).2 ∧
      (scanner.trace state (bs.take (i + 1))).2 = (scanner.step (scanner.trace state (bs.take i)).2 b).1 := by
  induction bs generalizing state i with
  | nil => cases h
  | cons a bs ih =>
    cases i with
    | zero =>
      cases h
      exact ⟨rfl, rfl⟩
    | succ i => exact ih _ h

end ParkingStation.Framing
