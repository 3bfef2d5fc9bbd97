import RpgSymbols.Source.Documentation
import RpgSymbols.Source.ProcedureIndex

/-!
Drafts: declarations that were opened and wait for their closing statement.
-/

namespace RpgSymbols

open Text

/-- What every opening statement settles. The documentation is the one gathered by then. -/
structure Heading where
  name : String
  displayKeywords : List String
  keywords : List String
  docs : Documentation
  position : Position
  deriving Repr

def Heading.of (name : String) (display : List String) (docs : Documentation)
    (position : Position) : Heading :=
  ⟨name, display, display.map upper, docs, position⟩

def Heading.declare (heading : Heading) (kind : Kind) (subItems : List Declaration) :
    Declaration where
  kind := kind
  name := heading.name
  keywords := heading.keywords
  displayKeywords := heading.displayKeywords
  title := heading.docs.title
  description := heading.docs.description
  tags := heading.docs.tags
  position := some heading.position
  subItems := subItems

/-- An open procedure: its interface is read while `reading` holds. -/
structure ProcedureDraft where
  heading : Heading
  form : ProcedureForm
  reading : Bool
  parameters : List Declaration := []
  deriving Repr

/-- The word in the place of a parameter's name when the parameter has none. -/
def anonymousWord : String := "*N"

namespace ProcedureDraft

/-- The words of a parameter line without a leading `DCL-` word. -/
def parameterWords (first : String) (others : List String) : List String :=
  if startsWith (upper first) "DCL-" then others else first :: others

def parameter? (draft : ProcedureDraft) (words : List String) (position : Position) :
    Option Declaration :=
  match words with
  | [] => none
  | first :: display =>
      let ordinal := draft.parameters.length
      let name :=
        if upper first = anonymousWord then "parm" ++ Number.natText (ordinal + 1) else first
      some {
        kind := .subitem
        name := name
        keywords := display.map upper
        displayKeywords := display
        description := draft.heading.docs.parameterDescription ordinal
        position := some position }

def addParameter (draft : ProcedureDraft) (words : List String) (position : Position) :
    ProcedureDraft :=
  { draft with parameters := draft.parameters ++ (draft.parameter? words position).toList }

/-- An interface statement: its keywords take the place of the procedure's own, and parameters
follow unless it ends on its line. -/
def beginInterface (draft : ProcedureDraft) (display : List String) (oneLine : Bool) :
    ProcedureDraft :=
  let kept := display.filter fun word => upper word != "END-PI"
  { draft with
    heading := { draft.heading with displayKeywords := kept, keywords := kept.map upper }
    reading := !oneLine }

def finish (draft : ProcedureDraft) : Declaration :=
  draft.heading.declare .procedure draft.parameters

end ProcedureDraft

inductive Draft where
  | dataStructure (heading : Heading)
  | procedure (draft : ProcedureDraft)
  | subroutine (heading : Heading)
  deriving Repr

end RpgSymbols
