import RpgSymbols.Number.Binary64
import RpgSymbols.Number.Word
import RpgSymbols.Schema.Fault
import RpgSymbols.Schema.IntegerText
import RpgSymbols.Table

/-!
Checks of single values. Integers and booleans are read leniently: numbers that are whole, and
texts that spell one, count as what they stand for.
-/

namespace RpgSymbols.Schema

open Text Number

def checkText (location : List Step) : Json → Checked String
  | .str text => .valid text
  | _ => .fault location .notText

def checkOptionalText (location : List Step) : Json → Checked (Option String)
  | .null => .valid none
  | value => (checkText location value).map some

/-- Every item of a list, each checked at its own place. -/
def checkItems {α : Type} (check : List Step → Json → Checked α) (location : List Step) :
    Nat → List Json → Checked (List α)
  | _, [] => .valid []
  | place, item :: rest =>
      ((check (location ++ [.index place]) item).and
        (checkItems check location (place + 1) rest)).map fun (first, others) => first :: others

/-- A list of texts; `expected` is the fault of a value that is no list. -/
def checkTexts (expected : FaultKind) (location : List Step) : Json → Checked (List String)
  | .arr items => checkItems checkText location 0 items
  | _ => .fault location expected

def checkInteger (location : List Step) : Json → Checked Int
  | .int value => .valid value
  | .bool value => .valid (if value then 1 else 0)
  | .decimal text =>
      match (Decimal.ofChars text.toList).rounded with
      | .whole value =>
          if insideSigned value then .valid value else .fault location .longInteger
      | .fractional => .fault location .fractionalInteger
      | .infinite => .fault location .infiniteInteger
  | .str text =>
      match spelledInteger text with
      | .integer value => .valid value
      | .tooLong => .fault location .longInteger
      | .unreadable => .fault location .unreadableInteger
  | _ => .fault location .notInteger

def booleanWords : Table Bool := [
  ("0", false), ("off", false), ("f", false), ("false", false), ("n", false), ("no", false),
  ("1", true), ("on", true), ("t", true), ("true", true), ("y", true), ("yes", true)]

def asciiLower (text : String) : String := String.ofList (text.toList.map Char.toLower)

def checkWholeBoolean (location : List Step) (value : Int) : Checked Bool :=
  if value = 0 then .valid false
  else if value = 1 then .valid true
  else .fault location .unreadableBoolean

/-- A boolean. A number that no 64-bit integer stands for is not read as one at all. -/
def checkBoolean (location : List Step) : Json → Checked Bool
  | .bool value => .valid value
  | .int value =>
      if fitsSigned value then checkWholeBoolean location value
      else .fault location .notBoolean
  | .decimal text =>
      match (Decimal.ofChars text.toList).rounded with
      | .whole value =>
          if insideSigned value then checkWholeBoolean location value
          else .fault location .notBoolean
      | _ => .fault location .notBoolean
  | .str text =>
      match Table.get? (asciiLower text) booleanWords with
      | some value => .valid value
      | none => .fault location .unreadableBoolean
  | _ => .fault location .notBoolean

def checkRequired {α : Type} (check : List Step → Json → Checked α) (location : List Step)
    (key : String) (fields : Table Json) : Checked α :=
  match Table.get? key fields with
  | some value => check (location ++ [.key key]) value
  | none => .fault (location ++ [.key key]) .missing

def checkDefaulted {α : Type} (check : List Step → Json → Checked α) (location : List Step)
    (key : String) (default : α) (fields : Table Json) : Checked α :=
  match Table.get? key fields with
  | some value => check (location ++ [.key key]) value
  | none => .valid default

end RpgSymbols.Schema
