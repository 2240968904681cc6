import ParkingStation.Toml.Scalar
import ParkingStation.Toml.Tree

namespace ParkingStation.Toml

def skipTrivia (inComment : Bool) : List Char → Option (List Char)
  | [] => some []
  | '\n' :: cs => skipTrivia false cs
  | '\r' :: '\n' :: cs => skipTrivia false cs
  | c :: cs =>
    if inComment then if isTextChar c then skipTrivia true cs else none
    else if isBlank c then skipTrivia false cs
    else if c = '#' then skipTrivia true cs
    else some (c :: cs)

mutual

def valueFor : Nat → Nat → List Char → Option (Value × List Char)
  | 0, _, _ => none
  | n + 1, depth, cs =>
    match cs, depth with
    | '[' :: rest, depth + 1 => (itemsFor n depth rest).map fun (items, rest) => (.array items, rest)
    | '\x7b' :: rest, depth + 1 => do
      let rest ← skipTrivia false rest
      (pairsFor n depth [] rest).map fun (nodes, rest) => (.table (values nodes), rest)
    | '\x22' :: _, _ => (quoted cs).map fun (text, rest) => (.string text, rest)
    | '\x27' :: _, _ => (quoted cs).map fun (text, rest) => (.string text, rest)
    | _, _ => scalar cs

def itemsFor : Nat → Nat → List Char → Option (List Value × List Char)
  | 0, _, _ => none
  | n + 1, depth, cs => do
    match ← skipTrivia false cs with
    | ']' :: rest => return ([], rest)
    | cs =>
      let (item, rest) ← valueFor n depth cs
      match ← skipTrivia false rest with
      | ',' :: rest => (itemsFor n depth rest).map fun (items, rest) => (item :: items, rest)
      | ']' :: rest => return ([item], rest)
      | _ => none

def pairsFor : Nat → Nat → Nodes → List Char → Option (Nodes × List Char)
  | 0, _, _, _ => none
  | n + 1, depth, nodes, cs => do
    match cs with
    | '\x7d' :: rest => return (nodes, rest)
    | _ =>
      let (path, rest) ← dottedKey cs
      let rest ← expect '=' (← skipTrivia false rest)
      let (value, rest) ← valueFor n depth (← skipTrivia false rest)
      let nodes ← assign path.key value path.tables nodes
      match ← skipTrivia false rest with
      | ',' :: rest => pairsFor n depth nodes (← skipTrivia false rest)
      | '\x7d' :: rest => return (nodes, rest)
      | _ => none

end

def readValue (cs : List Char) : Option (Value × List Char) := valueFor (2 * cs.length + 2) maxDepth cs

def endLine (cs : List Char) : Option (List Char) :=
  let after (cs : List Char) : Option (List Char) := if cs.isEmpty then some [] else newline? cs
  match skipBlank cs with
  | '#' :: comment => after (comment.dropWhile isTextChar)
  | cs => after cs

def linesFor : Nat → List String → Nodes → List Char → Option Nodes
  | 0, _, _, _ => none
  | n + 1, here, nodes, cs =>
    match skipBlank cs with
    | [] => some nodes
    | '[' :: '[' :: rest => do
      let (path, rest) ← dottedKey (skipBlank rest)
      let rest ← expect ']' (← expect ']' (skipBlank rest))
      let nodes ← openAt path.key openedElement path.tables nodes
      linesFor n (path.tables ++ [path.key]) nodes (← endLine rest)
    | '[' :: rest => do
      let (path, rest) ← dottedKey (skipBlank rest)
      let rest ← expect ']' (skipBlank rest)
      let nodes ← openAt path.key openedTable path.tables nodes
      linesFor n (path.tables ++ [path.key]) nodes (← endLine rest)
    | c :: rest =>
      if c = '#' ∨ (newline? (c :: rest)).isSome then do linesFor n here nodes (← endLine (c :: rest))
      else do
        let (path, rest) ← dottedKey (c :: rest)
        let rest ← expect '=' (skipBlank rest)
        let (value, rest) ← readValue (skipBlank rest)
        let nodes ← descend (assign path.key value path.tables) here nodes
        linesFor n here nodes (← endLine rest)

def parse (text : String) : Option Entries :=
  let cs := match text.toList with
    | '\ufeff' :: cs => cs
    | cs => cs
  (linesFor (cs.length + 1) [] [] cs).map values

end ParkingStation.Toml
