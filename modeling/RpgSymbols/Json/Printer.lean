import RpgSymbols.Json.Value
import RpgSymbols.Number.Digits
import RpgSymbols.Text.Hex

/-!
JSON texts. The compact form has no blanks; the indented form puts each item on a line of its
own, two blanks deeper than its container, and writes an empty container on one line. Fields are
written in the order the object holds them.
-/

namespace RpgSymbols.Json

open Number Text

/-- One character of a string. Control characters are escaped, the common ones by a letter; every
other character stands for itself. -/
def escapedChar (c : Char) : List Char :=
  if c == '"' then ['\\', '"']
  else if c == '\\' then ['\\', '\\']
  else if c == '\n' then ['\\', 'n']
  else if c == '\t' then ['\\', 't']
  else if c == '\r' then ['\\', 'r']
  else if c.toNat == 0x08 then ['\\', 'b']
  else if c.toNat == 0x0C then ['\\', 'f']
  else if c.toNat < 0x20 then '\\' :: 'u' :: hexDigits 4 c.toNat
  else [c]

def stringChars (text : String) : List Char :=
  '"' :: (text.toList.flatMap escapedChar ++ ['"'])

mutual
def compactChars : Json → List Char
  | .null => ['n', 'u', 'l', 'l']
  | .bool true => ['t', 'r', 'u', 'e']
  | .bool false => ['f', 'a', 'l', 's', 'e']
  | .int value => intDigits value
  | .decimal text => text.toList
  | .str value => stringChars value
  | .arr [] => ['[', ']']
  | .arr (item :: rest) => '[' :: (compactChars item ++ compactItems rest)
  | .obj [] => ['{', '}']
  | .obj ((key, value) :: rest) =>
      '{' :: (stringChars key ++ ':' :: (compactChars value ++ compactFields rest))

/-- The items after the first, each behind a comma, and the closing bracket. -/
def compactItems : List Json → List Char
  | [] => [']']
  | item :: rest => ',' :: (compactChars item ++ compactItems rest)

/-- The fields after the first, each behind a comma, and the closing brace. -/
def compactFields : List (String × Json) → List Char
  | [] => ['}']
  | (key, value) :: rest =>
      ',' :: (stringChars key ++ ':' :: (compactChars value ++ compactFields rest))
end

/-- A line break, and the blanks before the next line at the given depth. -/
def lineBreak (depth : Nat) : List Char := '\n' :: List.replicate (2 * depth) ' '

mutual
def indentedChars (depth : Nat) : Json → List Char
  | .null => ['n', 'u', 'l', 'l']
  | .bool true => ['t', 'r', 'u', 'e']
  | .bool false => ['f', 'a', 'l', 's', 'e']
  | .int value => intDigits value
  | .decimal text => text.toList
  | .str value => stringChars value
  | .arr [] => ['[', ']']
  | .arr (item :: rest) =>
      '[' :: (lineBreak (depth + 1) ++ indentedChars (depth + 1) item ++ indentedItems depth rest)
  | .obj [] => ['{', '}']
  | .obj ((key, value) :: rest) =>
      '{' :: (lineBreak (depth + 1) ++ stringChars key ++ ':' :: ' ' ::
        (indentedChars (depth + 1) value ++ indentedFields depth rest))

def indentedItems (depth : Nat) : List Json → List Char
  | [] => lineBreak depth ++ [']']
  | item :: rest =>
      ',' :: (lineBreak (depth + 1) ++ indentedChars (depth + 1) item ++ indentedItems depth rest)

def indentedFields (depth : Nat) : List (String × Json) → List Char
  | [] => lineBreak depth ++ ['}']
  | (key, value) :: rest =>
      ',' :: (lineBreak (depth + 1) ++ stringChars key ++ ':' :: ' ' ::
        (indentedChars (depth + 1) value ++ indentedFields depth rest))
end

def compact (value : Json) : String := String.ofList (compactChars value)

def indented (value : Json) : String := String.ofList (indentedChars 0 value)

end RpgSymbols.Json
