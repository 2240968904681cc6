namespace ParkingStation.Toml

inductive Value
  | string (text : String)
  | integer (n : Int)
  | float (spelling : String)
  | malformed
  | boolean (b : Bool)
  | moment (spelling : String)
  | array (items : List Value)
  | table (entries : List (String × Value))
  deriving Inhabited

abbrev Entries := List (String × Value)

mutual

def Value.allLeaves (p : Value → Bool) : Value → Bool
  | .array items => allItems p items
  | .table entries => allEntries p entries
  | v => p v

def allItems (p : Value → Bool) : List Value → Bool
  | [] => true
  | v :: vs => v.allLeaves p && allItems p vs

def allEntries (p : Value → Bool) : List (String × Value) → Bool
  | [] => true
  | (_, v) :: rest => v.allLeaves p && allEntries p rest

end

end ParkingStation.Toml
