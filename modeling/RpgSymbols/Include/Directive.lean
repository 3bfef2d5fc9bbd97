import RpgSymbols.Text.Blank
import RpgSymbols.Text.Case.Upper

/-!
Include directives: lines whose first word is `/COPY` or `/INCLUDE`, in any case, and whose second
word is the target.
-/

namespace RpgSymbols

open Text

def includeWords : List String := ["/COPY", "/INCLUDE"]

def includeTarget? (line : String) : Option String :=
  match words line with
  | first :: target :: _ => if includeWords.contains (upper first) then some target else none
  | _ => none

/-- The include targets of a text, from its last line to its first. -/
def includeTargets (lines : List String) : List String := lines.reverse.filterMap includeTarget?

end RpgSymbols
