import RpgSymbols.Text.Blank
import RpgSymbols.Text.Case.Upper

/-!
Declarations: the named symbols of a source, with the keywords, the documentation and the place
they were declared with. Names are compared without regard to case.
-/

namespace RpgSymbols

/-- What a symbol is declared as. A subitem is a parameter of a procedure. -/
inductive Kind where
  | constant
  | standalone
  | dataStructure
  | procedure
  | subroutine
  | subitem
  deriving DecidableEq, Repr

def Kind.name : Kind → String
  | .constant => "constant"
  | .standalone => "variable"
  | .dataStructure => "structure"
  | .procedure => "procedure"
  | .subroutine => "subroutine"
  | .subitem => "subitem"

def Kind.all : List Kind :=
  [.constant, .standalone, .dataStructure, .procedure, .subroutine, .subitem]

def Kind.ofName? (name : String) : Option Kind := Kind.all.find? fun kind => kind.name = name

/-- A file and a line in it, counted from zero. -/
structure Position where
  path : String
  line : Int
  deriving DecidableEq, Repr

structure Tag where
  tag : String
  content : String := ""
  deriving DecidableEq, Repr

/-- A named symbol. `keywords` are in upper case, `displayKeywords` as the source writes them. -/
structure Declaration where
  kind : Kind
  name : String
  keywords : List String := []
  displayKeywords : List String := []
  title : Option String := none
  description : String := ""
  tags : List Tag := []
  position : Option Position := none
  subItems : List Declaration := []
  deriving Repr

namespace Declaration

def isNamed (declaration : Declaration) (word : String) : Bool :=
  Text.upper declaration.name == Text.upper word

def findTag? (declaration : Declaration) (name : String) : Option Tag :=
  declaration.tags.find? fun tag => tag.tag = name

/-- The keywords that describe what a procedure returns: all but its external name. -/
def returnKeywords (declaration : Declaration) : List String :=
  declaration.keywords.filter fun keyword => !Text.startsWith keyword "EXTPROC"

end Declaration

end RpgSymbols
