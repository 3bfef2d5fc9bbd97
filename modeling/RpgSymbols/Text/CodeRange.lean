/-!
Sets of code points, given as increasing lists of closed ranges.
-/

namespace RpgSymbols.Text

/-- Whether a code point lies in one of the ranges. The search ends at the first range that begins
beyond the code point. -/
def inRanges (code : Nat) : List (Nat × Nat) → Bool
  | [] => false
  | (first, last) :: rest =>
      if code < first then false else if code ≤ last then true else inRanges code rest

end RpgSymbols.Text
