import RpgSymbols.Json.Value
import RpgSymbols.Table

/-!
TOML values, and the tables of a document while it is read. Three sets of keys say what later
statements may not touch: tables that were opened, values that were written in one piece, and the
tables that dotted keys of the present section made.
-/

namespace RpgSymbols.Toml

/-- A TOML value. Dates and times are not looked into, and numbers that are not finite have no
digits. -/
inductive Value where
  | text (value : String)
  | integer (value : Int)
  | decimal (digits : String)
  | unbounded
  | boolean (value : Bool)
  | moment
  | array (items : List Value)
  | table (entries : List (String × Value))
  deriving Repr

def Value.isContainer : Value → Bool
  | .array _ => true
  | .table _ => true
  | _ => false

mutual
/-- The value as JSON. What JSON cannot express becomes null. -/
def Value.toJson : Value → Json
  | .text value => .str value
  | .integer value => .int value
  | .decimal digits => .decimal digits
  | .unbounded => .null
  | .boolean value => .bool value
  | .moment => .null
  | .array items => .arr (Value.itemsToJson items)
  | .table entries => .obj (Value.entriesToJson entries)

def Value.itemsToJson : List Value → List Json
  | [] => []
  | item :: rest => item.toJson :: Value.itemsToJson rest

def Value.entriesToJson : List (String × Value) → List (String × Json)
  | [] => []
  | (key, value) :: rest => (key, value.toJson) :: Value.entriesToJson rest
end

abbrev Key := List String

/-- Changes the table under a key, which is made if it is not there. An array on the way stands for
its last table, where `enterArrays` allows it. Fails where something else is in the way. -/
def changeTable (enterArrays : Bool) (change : Table Value → Option (Table Value)) :
    Key → Table Value → Option (Table Value)
  | [], entries => change entries
  | name :: rest, entries =>
      match Table.get? name entries with
      | none => do return Table.set name (.table (← changeTable enterArrays change rest [])) entries
      | some (.table inner) => do
          return Table.set name (.table (← changeTable enterArrays change rest inner)) entries
      | some (.array items) =>
          match enterArrays, items.getLast? with
          | true, some (.table inner) => do
              let changed ← changeTable enterArrays change rest inner
              return Table.set name (.array (items.dropLast ++ [.table changed])) entries
          | _, _ => none
      | some _ => none

def addEntry (name : String) (value : Value) (entries : Table Value) : Option (Table Value) :=
  if Table.hasKey name entries then none else some (entries ++ [(name, value)])

def addTable (name : String) (entries : Table Value) : Option (Table Value) :=
  match Table.get? name entries with
  | none => some (entries ++ [(name, .array [.table []])])
  | some (.array items) => some (Table.set name (.array (items ++ [.table []])) entries)
  | some _ => none

structure Draft where
  root : Table Value := []
  header : Key := []
  opened : List Key := []
  closed : List Key := []
  dotted : List Key := []

namespace Draft

/-- Whether a key lies in a value that was written in one piece. -/
def isClosed (closed : List Key) (key : Key) : Bool := closed.any fun whole => whole.isPrefixOf key

/-- A section begins: the tables that dotted keys made in the one before count as opened. -/
def endSection (draft : Draft) : Draft :=
  { draft with opened := draft.opened ++ draft.dotted, dotted := [] }

def openTable (draft : Draft) (key : Key) : Option Draft :=
  if draft.opened.contains key || isClosed draft.closed key then none
  else do
    let root ← changeTable true some key draft.root
    return { draft with root := root, header := key, opened := key :: draft.opened }

/-- Opens the next table of a header in double brackets. What was said about the table before it
no longer holds. -/
def openArrayTable (draft : Draft) (key : Key) : Option Draft :=
  if isClosed draft.closed key then none
  else
    match key.getLast? with
    | none => none
    | some name => do
        let root ← changeTable true (addTable name) key.dropLast draft.root
        let elsewhere (other : Key) : Bool := !key.isPrefixOf other
        return { draft with
          root := root
          header := key
          opened := key :: draft.opened.filter elsewhere
          closed := draft.closed.filter elsewhere }

/-- The tables that a dotted key of the present section names, outermost first. -/
def dottedTables (base key : Key) : List Key :=
  ((List.range key.length).drop 1).map fun length => base ++ key.take length

def assign (draft : Draft) (key : Key) (value : Value) : Option Draft :=
  let tables := dottedTables draft.header key
  let parent := draft.header ++ key.dropLast
  match key.getLast? with
  | none => none
  | some name =>
      if tables.any draft.opened.contains || isClosed draft.closed parent then none
      else do
        let root ← changeTable true (addEntry name value) parent draft.root
        let whole := draft.header ++ key
        return { draft with
          root := root
          dotted := draft.dotted ++ tables
          closed := if value.isContainer then whole :: draft.closed else draft.closed }

end Draft

end RpgSymbols.Toml
