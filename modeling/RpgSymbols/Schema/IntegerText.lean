import RpgSymbols.Number.Digits
import RpgSymbols.Text.Blank

/-!
Integers spelled as texts. White space around the number, a plus, leading zeros with underscores
among them, single underscores between digits, and a fraction of zeros are all passed over. What is
left has to be an integer in plain form: perhaps a minus, then digits that do not start with a zero
unless there is no other.
-/

namespace RpgSymbols.Schema

open Text Number

inductive Spelled where
  | integer (value : Int)
  | tooLong
  | unreadable
  deriving DecidableEq, Repr

/-- Reads an integer in plain form. Digits that are too many, a minus counting as one, are noticed
before what follows them is looked at. -/
def readPlain (chars : List Char) : Spelled :=
  let negative := chars.head? == some '-'
  let unsigned := if negative then chars.drop 1 else chars
  let figures := unsigned.takeWhile isDigit
  let rest := unsigned.dropWhile isDigit
  if figures.isEmpty then .unreadable
  else if figures.head? == some '0' then
    if figures == ['0'] && rest.isEmpty then .integer 0 else .unreadable
  else if digitLimit < chars.length - rest.length then .tooLong
  else if rest.isEmpty then
    .integer (if negative then -(ofDigits figures : Int) else ofDigits figures)
  else .unreadable

/-- Drops zeros and underscores behind a first zero, `last` being the one before. The last of them
is kept when nothing follows, or a point. -/
def dropZeros? (last : Char) : List Char → Option (List Char)
  | [] => some [last]
  | c :: rest =>
      if c == '0' || c == '_' then dropZeros? c rest
      else if isDigit c || c == '-' then some (c :: rest)
      else if c == '.' then some (last :: c :: rest)
      else none

/-- The text without its leading zeros, if it starts as a number does. -/
def withoutZeros? : List Char → Option (List Char)
  | [] => none
  | c :: rest =>
      if c == '0' then dropZeros? c rest
      else if isDigit c || c == '-' then some (c :: rest)
      else none

def withoutFraction (chars : List Char) : List Char :=
  let fraction := (chars.dropWhile (· != '.')).drop 1
  if !fraction.isEmpty && fraction.all (· == '0') then chars.takeWhile (· != '.') else chars

/-- The text without underscores, if each of them stands alone between other characters. -/
def ungrouped (chars : List Char) : List Char :=
  if chars.head? == some '_' || chars.getLast? == some '_' || containsChars ['_', '_'] chars then
    chars
  else chars.filter (· != '_')

def trimWhiteSpace (chars : List Char) : List Char :=
  ((chars.dropWhile isWhiteSpace).reverse.dropWhile isWhiteSpace).reverse

def plainStart? : List Char → Option (List Char)
  | '+' :: '-' :: _ => none
  | '+' :: rest => withoutZeros? rest
  | '-' :: rest => (withoutZeros? rest).map ('-' :: ·)
  | chars => withoutZeros? chars

/-- The integer a text spells. Only a text that is in plain form from its start is refused for its
length; any other that is too long counts as unreadable. -/
def spelledInteger (text : String) : Spelled :=
  match readPlain text.toList with
  | .unreadable =>
      match plainStart? (trimWhiteSpace text.toList) with
      | none => .unreadable
      | some chars =>
          match readPlain (ungrouped (withoutFraction chars)) with
          | .integer value => .integer value
          | _ => .unreadable
  | spelled => spelled

end RpgSymbols.Schema
