import RpgSymbols.Pattern.Class

/-!
Glob patterns over whole paths: `*` stands for any text, slashes included, `?` for one character
and brackets for one character of a class. A range that ends before it begins is taken out of its
class; an unclosed bracket stands for itself.
-/

namespace RpgSymbols.Pattern

inductive GlobPiece where
  | anyText
  | anyChar
  | oneOf (set : CharClass)
  | never
  | char (c : Char)
  deriving DecidableEq, Repr

/-- Cuts the text of a class at the dashes that make ranges. The next `fixed` characters belong to
the present chunk whatever they are. -/
def cutChunks : Nat → List Char → List (List Char)
  | _, [] => [[]]
  | 0, c :: rest =>
      if c = '-' then [] :: cutChunks 2 rest
      else match cutChunks 0 rest with
        | [] => [[c]]
        | chunk :: more => (c :: chunk) :: more
  | fixed + 1, c :: rest =>
      match cutChunks fixed rest with
      | [] => [[c]]
      | chunk :: more => (c :: chunk) :: more

/-- A dash before the end of a class is a member of it. -/
def keepFinalDash : List (List Char) → List (List Char)
  | [] => []
  | [chunk, []] => [chunk ++ ['-']]
  | chunk :: rest => chunk :: keepFinalDash rest

/-- Takes out the ranges that end before they begin, from the last to the first. -/
def dropEmptyRanges : List (List Char) → List (List Char)
  | [] => []
  | chunk :: rest =>
      match dropEmptyRanges rest with
      | [] => [chunk]
      | next :: more =>
          match chunk.getLast?, next.head? with
          | some low, some high =>
              if high < low then (chunk.dropLast ++ next.drop 1) :: more
              else chunk :: next :: more
          | _, _ => chunk :: next :: more

def chunkSigns : List (List Char) → List Sign
  | [] => []
  | [chunk] => chunk.map .literal
  | chunk :: rest => chunk.map .literal ++ .plain '-' :: chunkSigns rest

def globSigns (text : List Char) : List Sign :=
  let fixed := if text.head? == some '!' then 2 else 1
  chunkSigns (dropEmptyRanges (keepFinalDash (cutChunks fixed text)))

/-- The piece of a class with the given text. Nothing belongs to a class that has become empty, and
everything to one whose negation has. -/
def classPiece (text : List Char) : GlobPiece :=
  match globSigns text with
  | [] => .never
  | [.literal '!'] => .anyChar
  | .literal '!' :: signs =>
      match readRanges true (signs ++ [.plain ']']) with
      | some (ranges, _) => .oneOf ⟨true, ranges⟩
      | none => .never
  | signs =>
      match readRanges true (signs ++ [.plain ']']) with
      | some (ranges, _) => .oneOf ⟨false, ranges⟩
      | none => .never

/-- The pieces of a pattern, after the `passed` characters that belong to a class before them. -/
def globPieces : Nat → List Char → List GlobPiece
  | _, [] => []
  | passed + 1, _ :: rest => globPieces passed rest
  | 0, c :: rest =>
      if c = '*' then .anyText :: globPieces 0 rest
      else if c = '?' then .anyChar :: globPieces 0 rest
      else if c = '[' then
        match classText? rest with
        | some text => classPiece text :: globPieces (text.length + 1) rest
        | none => .char '[' :: globPieces 0 rest
      else .char c :: globPieces 0 rest

def behind? (accepts : Char → Bool) : List Char → Option (List Char)
  | [] => none
  | c :: rest => if accepts c then some rest else none

/-- What may remain of a text behind one more piece. `remainders` are the ends that may remain
before it, longest first: any text may be taken from the longest alone. -/
def GlobPiece.pass (remainders : List (List Char)) : GlobPiece → List (List Char)
  | .anyText => remainders.head?.elim [] endings
  | .anyChar => remainders.filterMap (behind? fun _ => true)
  | .oneOf set => remainders.filterMap (behind? set.holds)
  | .never => []
  | .char expected => remainders.filterMap (behind? (· == expected))

/-- Whether pieces match a whole text: nothing may remain behind them. -/
def globMatches (pieces : List GlobPiece) (text : List Char) : Bool :=
  (pieces.foldl GlobPiece.pass [text]).any List.isEmpty

def matchesGlob (pattern path : String) : Bool :=
  globMatches (globPieces 0 pattern.toList) path.toList

end RpgSymbols.Pattern
