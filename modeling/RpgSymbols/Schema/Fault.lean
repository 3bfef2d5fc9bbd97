import RpgSymbols.Json.Value
import RpgSymbols.Number.Digits
import RpgSymbols.Symbol.Declaration
import RpgSymbols.Text.Order

/-!
Faults of data that does not have the expected form. A check reports every fault it finds, each
with its location, and gives a value only if there is none.
-/

namespace RpgSymbols.Schema

open Text Number

/-- One step from a container to what it contains. -/
inductive Step where
  | key (name : String)
  | index (place : Nat)
  deriving DecidableEq, Repr

def Step.text : Step → String
  | .key name => name
  | .index place => natText place

def Step.toJson : Step → Json
  | .key name => .str name
  | .index place => .int place

inductive FaultKind where
  | missing
  | notText
  | notList
  | notTuple
  | notInteger
  | unreadableInteger
  | fractionalInteger
  | infiniteInteger
  | longInteger
  | notBoolean
  | unreadableBoolean
  | notRecord (name : String)
  | unknownKind
  | unexpectedKey
  | tooDeep
  | refused (reason : String)
  deriving DecidableEq, Repr

namespace FaultKind

def code : FaultKind → String
  | .missing => "missing"
  | .notText => "string_type"
  | .notList => "list_type"
  | .notTuple => "tuple_type"
  | .notInteger => "int_type"
  | .unreadableInteger => "int_parsing"
  | .fractionalInteger => "int_from_float"
  | .infiniteInteger => "finite_number"
  | .longInteger => "int_parsing_size"
  | .notBoolean => "bool_type"
  | .unreadableBoolean => "bool_parsing"
  | .notRecord _ => "model_type"
  | .unknownKind => "literal_error"
  | .unexpectedKey => "extra_forbidden"
  | .tooDeep => "recursion_depth_exceeded"
  | .refused _ => "value_error"

/-- Texts in quotes, with commas between them and an "or" before the last. -/
def alternatives : List String → String
  | [] => ""
  | [last] => "'" ++ last ++ "'"
  | [one, last] => "'" ++ one ++ "' or '" ++ last ++ "'"
  | one :: rest => "'" ++ one ++ "', " ++ alternatives rest

def message : FaultKind → String
  | .missing => "Field required"
  | .notText => "Input should be a valid string"
  | .notList => "Input should be a valid list"
  | .notTuple => "Input should be a valid tuple"
  | .notInteger => "Input should be a valid integer"
  | .unreadableInteger =>
      "Input should be a valid integer, unable to parse string as an integer"
  | .fractionalInteger =>
      "Input should be a valid integer, got a number with a fractional part"
  | .infiniteInteger => "Input should be a finite number"
  | .longInteger => "Unable to parse input string as an integer, exceeded maximum size"
  | .notBoolean => "Input should be a valid boolean"
  | .unreadableBoolean => "Input should be a valid boolean, unable to interpret input"
  | .notRecord name => "Input should be a valid dictionary or instance of " ++ name
  | .unknownKind => "Input should be " ++ alternatives (Kind.all.map Kind.name)
  | .unexpectedKey => "Extra inputs are not permitted"
  | .tooDeep => "Recursion error - maximum validation depth exceeded"
  | .refused reason => "Value error, " ++ reason

end FaultKind

structure Fault where
  kind : FaultKind
  location : List Step
  deriving DecidableEq, Repr

def Fault.toJson (fault : Fault) : Json :=
  .obj [
    ("loc", .arr (fault.location.map Step.toJson)),
    ("msg", .str fault.kind.message),
    ("type", .str fault.kind.code)]

/-- The order faults are reported in: by location, step by step, as texts. -/
def Fault.precedes (one other : Fault) : Bool :=
  textsInOrder (one.location.map Step.text) (other.location.map Step.text)

def sortFaults (faults : List Fault) : List Fault := faults.mergeSort Fault.precedes

inductive Checked (α : Type) where
  | valid (value : α)
  | invalid (faults : List Fault)

namespace Checked

def map {α β : Type} (change : α → β) : Checked α → Checked β
  | .valid value => .valid (change value)
  | .invalid faults => .invalid faults

/-- Two checks at once: the faults of both are reported. -/
def and {α β : Type} : Checked α → Checked β → Checked (α × β)
  | .valid one, .valid other => .valid (one, other)
  | .valid _, .invalid faults => .invalid faults
  | .invalid faults, .valid _ => .invalid faults
  | .invalid faults, .invalid more => .invalid (faults ++ more)

/-- A further check of a value that passed the first. -/
def andThen {α β : Type} (first : Checked α) (next : α → Checked β) : Checked β :=
  match first with
  | .valid value => next value
  | .invalid faults => .invalid faults

def fault {α : Type} (location : List Step) (kind : FaultKind) : Checked α :=
  .invalid [⟨kind, location⟩]

end Checked

end RpgSymbols.Schema
