/-!
JSON values. Whole numbers are exact; a number with a fraction or an exponent is kept as it is
written, because nothing here computes with one.
-/

namespace RpgSymbols

/-- A JSON value. The fields of an object are in order of their first appearance. -/
inductive Json where
  | null
  | bool (value : Bool)
  | int (value : Int)
  | decimal (text : String)
  | str (value : String)
  | arr (items : List Json)
  | obj (fields : List (String × Json))
  deriving Repr

namespace Json

def strings (texts : List String) : Json := .arr (texts.map .str)

def optional (text : Option String) : Json := text.elim .null .str

end Json

end RpgSymbols
