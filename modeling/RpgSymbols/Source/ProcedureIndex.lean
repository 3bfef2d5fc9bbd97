import RpgSymbols.Symbol.Declaration

/-!
The procedures found so far: one entry for each name, in the order of the first appearance of the
names. A definition takes the place of whatever was there; a prototype never does.
-/

namespace RpgSymbols

open Text

/-- Where a procedure record comes from: a prototype, or the definition of its body. -/
inductive ProcedureForm where
  | prototype
  | definition
  deriving DecidableEq, Repr

def ProcedureForm.replaces (incoming _existing : ProcedureForm) : Bool := incoming = .definition

structure IndexedProcedure where
  declaration : Declaration
  form : ProcedureForm
  deriving Repr

def IndexedProcedure.key (entry : IndexedProcedure) : String := upper entry.declaration.name

structure ProcedureIndex where
  entries : List IndexedProcedure := []
  deriving Repr

namespace ProcedureIndex

def find? (index : ProcedureIndex) (name : String) : Option IndexedProcedure :=
  index.entries.find? fun entry => entry.key = upper name

def contains (index : ProcedureIndex) (name : String) : Bool := (index.find? name).isSome

def get? (index : ProcedureIndex) (name : String) : Option Declaration :=
  (index.find? name).map IndexedProcedure.declaration

def size (index : ProcedureIndex) : Nat := index.entries.length

def toList (index : ProcedureIndex) : List Declaration :=
  index.entries.map IndexedProcedure.declaration

/-- Whether a record would be stored: its name is new, or it replaces the record there. -/
def accepts (index : ProcedureIndex) (name : String) (form : ProcedureForm) : Bool :=
  match index.find? name with
  | none => true
  | some entry => form.replaces entry.form

/-- Stores a record at the end, in the place of the one it replaces, or not at all. -/
def add (index : ProcedureIndex) (declaration : Declaration) (form : ProcedureForm) :
    ProcedureIndex :=
  let key := upper declaration.name
  match index.find? declaration.name with
  | none => ⟨index.entries ++ [⟨declaration, form⟩]⟩
  | some entry =>
      if form.replaces entry.form then
        ⟨index.entries.map fun old => if old.key = key then ⟨declaration, form⟩ else old⟩
      else index

end ProcedureIndex

end RpgSymbols
