import RpgSymbols.Symbol.Declaration

/-!
Symbol models: every declaration visible from a document, in five ordered collections, and the
questions an editor asks of them.
-/

namespace RpgSymbols

structure Model where
  constants : List Declaration := []
  standalones : List Declaration := []
  structures : List Declaration := []
  procedures : List Declaration := []
  subroutines : List Declaration := []
  deriving Repr

namespace Model

/-- Every declaration, collection by collection. -/
def declarations (model : Model) : List Declaration :=
  model.constants ++ model.standalones ++ model.structures ++ model.procedures ++ model.subroutines

def size (model : Model) : Nat := model.declarations.length

def findProcedure? (model : Model) (word : String) : Option Declaration :=
  model.procedures.find? fun declaration => declaration.isNamed word

/-- The first declaration of the given name, whatever its kind. -/
def findDefinition? (model : Model) (word : String) : Option Declaration :=
  model.declarations.find? fun declaration => declaration.isNamed word

/-- The declarations of one file as an outline shows them: procedures and subroutines first, then
variables, structures and constants. -/
def outline (model : Model) (path : String) : List Declaration :=
  (model.procedures ++ model.subroutines ++ model.standalones ++ model.structures ++
    model.constants).filter fun declaration =>
      declaration.position.any fun position => position.path = path

end Model

end RpgSymbols
