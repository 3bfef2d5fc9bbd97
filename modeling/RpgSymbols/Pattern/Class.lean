/-!
Character classes in brackets, as file patterns write them: single characters and ranges, negated
by a leading mark.
-/

namespace RpgSymbols.Pattern

/-- A character of a class: a plain one may have a meaning of its own, a literal one never has. -/
inductive Sign where
  | plain (c : Char)
  | literal (c : Char)
  deriving DecidableEq, Repr

def Sign.char : Sign → Char
  | .plain c => c
  | .literal c => c

structure CharClass where
  negated : Bool
  ranges : List (Char × Char)
  deriving DecidableEq, Repr

def CharClass.holds (set : CharClass) (c : Char) : Bool :=
  (set.ranges.any fun range => range.1 ≤ c && c ≤ range.2) != set.negated

/-- The ranges of a class up to its closing bracket, and the signs after it. A bracket that comes
first is a member, a dash between two members makes a range, and a dash at the end is a member.
Fails on a range that ends before it begins and on a class without an end. -/
def readRanges (first : Bool) : List Sign → Option (List (Char × Char) × List Sign)
  | [] => none
  | sign :: .plain '-' :: .plain ']' :: rest =>
      if sign = .plain ']' && !first then some ([], .plain '-' :: .plain ']' :: rest)
      else some ([(sign.char, sign.char), ('-', '-')], rest)
  | sign :: .plain '-' :: last :: rest =>
      if sign = .plain ']' && !first then some ([], .plain '-' :: last :: rest)
      else if last.char < sign.char then none
      else (readRanges false rest).map fun (ranges, rest) => ((sign.char, last.char) :: ranges, rest)
  | [sign, .plain '-'] => if sign = .plain ']' && !first then some ([], [.plain '-']) else none
  | sign :: rest =>
      if sign = .plain ']' && !first then some ([], rest)
      else (readRanges false rest).map fun (ranges, rest) => ((sign.char, sign.char) :: ranges, rest)

/-- The text of a class after its opening bracket: up to the next closing one that is neither first
nor right behind a leading `!`. -/
def classText? (chars : List Char) : Option (List Char) :=
  let mark := chars.takeWhile (· == '!') |>.take 1
  let afterMark := chars.drop mark.length
  let bracket := afterMark.takeWhile (· == ']') |>.take 1
  let rest := afterMark.drop bracket.length
  if rest.contains ']' then some (mark ++ bracket ++ rest.takeWhile (· != ']')) else none

/-- The ends of a list, from the whole list to the empty one. -/
def endings : List Char → List (List Char)
  | [] => [[]]
  | c :: rest => (c :: rest) :: endings rest

end RpgSymbols.Pattern
