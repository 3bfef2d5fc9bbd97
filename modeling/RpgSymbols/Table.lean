/-!
Tables: values under text keys, in the order the keys were first stored.
-/

namespace RpgSymbols

abbrev Table (α : Type) := List (String × α)

namespace Table

variable {α : Type}

def get? (key : String) : Table α → Option α
  | [] => none
  | (name, value) :: rest => if name = key then some value else get? key rest

def hasKey (key : String) (table : Table α) : Bool := (get? key table).isSome

/-- Stores a value under a key. A key that is already there keeps its place. -/
def set (key : String) (value : α) : Table α → Table α
  | [] => [(key, value)]
  | (name, old) :: rest =>
      if name = key then (key, value) :: rest else (name, old) :: set key value rest

def remove (key : String) (table : Table α) : Table α :=
  table.filter fun entry => entry.1 != key

def keys (table : Table α) : List String := table.map Prod.fst

end Table

end RpgSymbols
