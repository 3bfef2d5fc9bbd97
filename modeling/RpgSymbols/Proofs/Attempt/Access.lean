import RpgSymbols.Cache.Source
import RpgSymbols.Source.Assembler

/-!
Steps that may fail. The functions of the library answer on every input, so what could go wrong on
the way to an answer does not show. Here such a step is an attempt: an access beyond the end of a
list, lists of different lengths where they must agree, a record that is refused, a text that is no
JSON, a target without an address, a source that fails.
-/

namespace RpgSymbols

open Text

/-- What can go wrong in a step. A source or a linter may raise anything else under any name. -/
inductive Fault where
  | unresolvable (reason : Unresolvable)
  | raised (name message : String)
  | outOfRange
  | uneven
  | notFound
  | notJson
  | refusedRecord (kind : Kind) (name : String)
  deriving DecidableEq, Repr

def Fault.message : Fault → String
  | .unresolvable reason => reason.message
  | .raised _ message => message
  | .outOfRange => "list index out of range"
  | .uneven => "lists of different lengths"
  | .notFound => "substring not found"
  | .notJson => "not valid JSON"
  | .refusedRecord kind name => kind.name ++ " '" ++ name ++ "' cannot have sub items"

abbrev Attempt (Value : Type) := Except Fault Value

namespace Attempt

variable {Value Other : Type}

def item (values : List Value) (place : Nat) : Attempt Value :=
  values[place]?.elim (.error .outOfRange) .ok

def lastItem (values : List Value) : Attempt Value :=
  values.getLast?.elim (.error .outOfRange) .ok

def assign (values : List Value) (place : Nat) (value : Value) : Attempt (List Value) :=
  if place < values.length then .ok (values.set place value) else .error .outOfRange

def inStep (first : List Value) (second : List Other) : Attempt (List (Value × Other)) :=
  if first.length = second.length then .ok (first.zip second) else .error .uneven

def both : List Value → Attempt (Value × Value)
  | [first, second] => .ok (first, second)
  | _ => .error .uneven

def beforeLast (mark : Char) (text : String) : Attempt String :=
  if text.toList.contains mark then
    .ok (String.ofList ((text.toList.reverse.dropWhile (· != mark)).drop 1).reverse)
  else .error .notFound

/-- A declaration as a record: only a procedure may have subitems. -/
def checked (declaration : Declaration) : Attempt Declaration :=
  if declaration.subItems.isEmpty || declaration.kind = .procedure then .ok declaration
  else .error (.refusedRecord declaration.kind declaration.name)

@[simp]
theorem bind_ok (value : Value) (next : Value → Attempt Other) :
    ((.ok value : Attempt Value) >>= next) = next value := rfl

@[simp]
theorem pure_ok (value : Value) : (pure value : Attempt Value) = .ok value := rfl

@[simp]
theorem item_head (value : Value) (rest : List Value) : item (value :: rest) 0 = .ok value := rfl

@[simp]
theorem item_tail (value : Value) (rest : List Value) (place : Nat) :
    item (value :: rest) (place + 1) = item rest place := rfl

theorem item_of_get {values : List Value} {place : Nat} {value : Value}
    (found : values[place]? = some value) : item values place = .ok value := by
  rw [item, found, Option.elim_some]

theorem last_of_get {values : List Value} {value : Value}
    (found : values.getLast? = some value) : lastItem values = .ok value := by
  rw [lastItem, found, Option.elim_some]

@[simp]
theorem checked_bare (heading : Heading) (kind : Kind) :
    checked (heading.declare kind []) = .ok (heading.declare kind []) := rfl

@[simp]
theorem checked_procedure (draft : ProcedureDraft) : checked draft.finish = .ok draft.finish := by
  rw [checked, if_pos]
  exact Bool.or_eq_true_iff.mpr (.inr (decide_eq_true rfl))

end Attempt

end RpgSymbols
