/-!
The order of lists of texts. Texts are compared by code points, and lists text by text.
-/

namespace RpgSymbols.Text

/-- Whether one list comes no later than the other: at the first place where they differ it has the
smaller text, or it ends. -/
def textsInOrder : List String → List String → Bool
  | [], _ => true
  | _ :: _, [] => false
  | one :: rest, other :: others => if one = other then textsInOrder rest others else one < other

end RpgSymbols.Text
