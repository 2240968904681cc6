import ParkingStation.Toml.Text
import ParkingStation.Toml.Value

namespace ParkingStation.Toml

def digitRun (digit? : Char → Option Nat) : List Char → Option (List Nat)
  | [] => none
  | [d] => (digit? d).map ([·])
  | d :: '_' :: rest => do return (← digit? d) :: (← digitRun digit? rest)
  | d :: rest => do return (← digit? d) :: (← digitRun digit? rest)

def digitBelow? (base : Nat) (c : Char) : Option Nat := (hexDigit? c).filter (· < base)

def digits (base : Nat) (cs : List Char) : Option (List Nat) := digitRun (digitBelow? base) cs

def ofDigits (base : Nat) (ds : List Nat) : Nat := ds.foldl (fun n d => n * base + d) 0

def numeral (base : Nat) (cs : List Char) : Option Nat := (digits base cs).map (ofDigits base)

def Value.ofInt (n : Int) : Value := if -Int.pow 2 127 ≤ n ∧ n < Int.pow 2 128 then .integer n else .malformed

def based (base : Nat) (cs : List Char) : Option Value :=
  if cs.isEmpty then some .malformed else (numeral base cs).map fun n => .ofInt n

def barsApart (before : Char) : List Char → Bool
  | [] => true
  | c :: rest =>
    (c ≠ '_' || ((hexDigit? before).isSome && (rest.head?.bind hexDigit?).isSome)) && barsApart c rest

def isDecimal : List Char → Bool
  | [] => false
  | ['0'] => true
  | d :: cs =>
    d.isDigit && d ≠ '0' && (cs.dropWhile Char.isDigit).head?.all (· = '_') && barsApart d cs &&
      !cs.any fun c => c = '.' || c = 'e' || c = 'E'

def decimal (signed : Nat → Int) (cs : List Char) : Option Value :=
  if isDecimal cs then
    match numeral 10 (cs.filter (· ≠ '_')) with
    | some n => some (.ofInt (signed n))
    | none => some .malformed
  else none

def integer? : List Char → Option Value
  | '0' :: 'x' :: cs => based 16 cs
  | '0' :: 'o' :: cs => based 8 cs
  | '0' :: 'b' :: cs => based 2 cs
  | '+' :: cs => decimal (fun n => n) cs
  | '-' :: cs => decimal (fun n => -n) cs
  | cs => decimal (fun n => n) cs

def doubleBound : Nat := Nat.pow 2 1024 - Nat.pow 2 970

def isHuge (ds : List Nat) (power : Int) : Bool :=
  let ds := ds.dropWhile (· = 0)
  let width := ds.length + power
  !ds.isEmpty &&
    (309 < width ||
      (width = 309 && doubleBound * Nat.pow 10 (-power).toNat ≤ ofDigits 10 ds * Nat.pow 10 power.toNat))

def isDigitOrBar (c : Char) : Bool := c.isDigit || c = '_'

def wholeDigits (cs : List Char) : Option (List Nat) :=
  if cs.head? = some '0' ∧ cs.length ≠ 1 then none else digits 10 cs

def exponent : List Char → Option Int
  | '+' :: cs => (numeral 10 cs).map fun n => n
  | '-' :: cs => (numeral 10 cs).map fun n => -n
  | cs => (numeral 10 cs).map fun n => n

def power : List Char → Option Int
  | [] => some 0
  | e :: cs => if e = 'e' ∨ e = 'E' then exponent cs else none

def float? (cs : List Char) : Option Value :=
  match cs with
  | '+' :: body => unsigned body
  | '-' :: body => unsigned body
  | body => unsigned body
where
  value (ds : List Nat) (power : Int) : Value :=
    if isHuge ds power then .malformed else .float (String.ofList cs)
  unsigned (body : List Char) : Option Value :=
    if body = ['i', 'n', 'f'] ∨ body = ['n', 'a', 'n'] then some (.float (String.ofList cs))
    else do
      let whole ← wholeDigits (body.takeWhile isDigitOrBar)
      match body.dropWhile isDigitOrBar with
      | [] => none
      | '.' :: rest =>
        let fraction ← digits 10 (rest.takeWhile isDigitOrBar)
        let power ← power (rest.dropWhile isDigitOrBar)
        return value (whole ++ fraction) (power - fraction.length)
      | rest => return value whole (← power rest)

end ParkingStation.Toml
