import ParkingStation.Toml.Text
import ParkingStation.Toml.Value

/-! A table remembers how it came about, because that decides what may still be added to it. -/

namespace ParkingStation.Toml

inductive Origin
  | implied
  | dotted
  | header
  deriving DecidableEq

inductive Node
  | leaf (value : Value)
  | table (origin : Origin) (nodes : List (String × Node))
  | tables (last : List (String × Node)) (earlier : List (List (String × Node)))

abbrev Nodes := List (String × Node)

def alter (key : String) (change : Option Node → Option Node) : Nodes → Option Nodes
  | [] => (change none).map fun node => [(key, node)]
  | (k, node) :: rest =>
    if k = key then (change (some node)).map fun node => (k, node) :: rest
    else (alter key change rest).map ((k, node) :: ·)

def descend (change : Nodes → Option Nodes) : List String → Nodes → Option Nodes
  | [], nodes => change nodes
  | key :: path, nodes =>
    alter key (fun
      | some (.table origin inner) => (descend change path inner).map (.table origin)
      | some (.tables last earlier) => (descend change path last).map (.tables · earlier)
      | _ => none) nodes

def assign (key : String) (value : Value) : List String → Nodes → Option Nodes
  | [], nodes =>
    alter key (fun
      | none => some (.leaf value)
      | some _ => none) nodes
  | name :: path, nodes =>
    alter name (fun
      | none => (assign key value path []).map (.table .dotted)
      | some (.table origin inner) =>
        if origin = .header ∨ (path.isEmpty ∧ origin ≠ .dotted) then none
        else (assign key value path inner).map (.table origin)
      | some (.tables last earlier) =>
        if path.isEmpty then none else (assign key value path last).map (.tables · earlier)
      | some (.leaf _) => none) nodes

def openAt (key : String) (opened : Option Node → Option Node) : List String → Nodes → Option Nodes
  | [], nodes => alter key opened nodes
  | name :: path, nodes =>
    alter name (fun
      | none => (openAt key opened path []).map (.table .implied)
      | some (.table origin inner) => (openAt key opened path inner).map (.table origin)
      | some (.tables last earlier) => (openAt key opened path last).map (.tables · earlier)
      | some (.leaf _) => none) nodes

def openedTable : Option Node → Option Node
  | none => some (.table .header [])
  | some (.table .implied inner) => some (.table .header inner)
  | some _ => none

def openedElement : Option Node → Option Node
  | none => some (.tables [] [])
  | some (.tables last earlier) => some (.tables [] (last :: earlier))
  | some _ => none

mutual

def Node.value : Node → Value
  | .leaf value => value
  | .table _ nodes => .table (values nodes)
  | .tables last earlier => .array (elements earlier ++ [.table (values last)])

def values : List (String × Node) → List (String × Value)
  | [] => []
  | (key, node) :: rest => (key, node.value) :: values rest

def elements : List (List (String × Node)) → List Value
  | [] => []
  | nodes :: earlier => elements earlier ++ [.table (values nodes)]

end

end ParkingStation.Toml
