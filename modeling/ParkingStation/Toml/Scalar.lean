import ParkingStation.Calendar
import ParkingStation.Toml.Number

namespace ParkingStation.Toml

def fixed (width : Nat) (cs : List Char) : Option (Nat × List Char) :=
  if cs.length < width ∨ !(cs.take width).all Char.isDigit then none
  else (numeral 10 (cs.take width)).map fun n => (n, cs.drop width)

def expect (c : Char) : List Char → Option (List Char)
  | d :: cs => if d = c then some cs else none
  | [] => none

def date (cs : List Char) : Option (List Char) := do
  let (year, cs) ← fixed 4 cs
  let (month, cs) ← fixed 2 (← expect '-' cs)
  let (day, cs) ← fixed 2 (← expect '-' cs)
  discard (Date.of? year month day)
  return cs

def clock (cs : List Char) : Option (List Char) := do
  let (hour, cs) ← fixed 2 cs
  let (minute, cs) ← fixed 2 (← expect ':' cs)
  if 24 ≤ hour ∨ 60 ≤ minute then none
  match cs with
  | ':' :: cs =>
    let (second, cs) ← fixed 2 cs
    if 60 < second then none
    match cs with
    | '.' :: fraction =>
      if (fraction.takeWhile Char.isDigit).isEmpty then none else some (fraction.dropWhile Char.isDigit)
    | _ => some cs
  | _ => some cs

def isOffset : List Char → Bool
  | [] | ['Z'] | ['z'] => true
  | sign :: cs =>
    (sign = '+' || sign = '-') &&
      (do
        let (hours, cs) ← fixed 2 cs
        let (minutes, cs) ← fixed 2 (← expect ':' cs)
        return cs.isEmpty && hours < 24 && minutes < 60 : Option Bool).getD false

def isMoment (cs : List Char) : Bool :=
  (match date cs with
    | some [] => true
    | some (mark :: rest) => (mark = 'T' || mark = 't' || mark = ' ') && (clock rest).any isOffset
    | none => false) || clock cs = some []

def ofWord (cs : List Char) : Option Value :=
  if cs = "true".toList then some (.boolean true)
  else if cs = "false".toList then some (.boolean false)
  else
    match integer? cs <|> float? cs with
    | some v => some v
    | none => if isMoment cs then some (.moment (String.ofList cs)) else none

def isWordChar (c : Char) : Bool := !("=,[]\x7b\x7d \t#\r\n".toList.contains c)

def scalar (cs : List Char) : Option (Value × List Char) :=
  let word := cs.takeWhile isWordChar
  let rest := cs.dropWhile isWordChar
  match rest with
  | ' ' :: d :: more =>
    if date word = some [] ∧ d.isDigit then
      let time := (d :: more).takeWhile isWordChar
      (ofWord (word ++ ' ' :: time)).map fun v => (v, (d :: more).dropWhile isWordChar)
    else (ofWord word).map fun v => (v, rest)
  | _ => (ofWord word).map fun v => (v, rest)

end ParkingStation.Toml
