import RpgSymbols.Number.Digits
import RpgSymbols.Text.Hex
import RpgSymbols.Toml.Value

/-!
Keys, strings, numbers and dates of TOML. Each reader returns what it read and the characters after
it.
-/

namespace RpgSymbols.Toml

open Number Text

/-- Why a document was not read: it is not TOML, a whole number in it is too long, or its values are
nested too deeply. -/
inductive Refusal where
  | malformed
  | longInteger (digits : Nat)
  | tooDeep
  deriving DecidableEq, Repr

def orMalformed {α : Type} : Option α → Except Refusal α
  | some value => .ok value
  | none => .error .malformed

def isSpace (c : Char) : Bool := c == ' ' || c == '\t'

/-- Control characters other than the tab; they stand nowhere in a document but as line breaks. -/
def isControl (c : Char) : Bool := (c.toNat < 0x20 || c.toNat == 0x7F) && c != '\t'

def skipSpace (chars : List Char) : List Char := chars.dropWhile isSpace

def skipComment : List Char → Option (List Char)
  | [] => some []
  | c :: rest =>
      if c == '\n' then some (c :: rest) else if isControl c then none else skipComment rest

/-- Passes over blanks, line breaks and comments; `inComment` says whether a comment is open. -/
def skipLines (inComment : Bool) : List Char → Option (List Char)
  | [] => some []
  | c :: rest =>
      if inComment then
        if c == '\n' then skipLines false rest
        else if isControl c then none
        else skipLines true rest
      else if isSpace c || c == '\n' then skipLines false rest
      else if c == '#' then skipLines true rest
      else some (c :: rest)

def readLiteral : List Char → Option (List Char × List Char)
  | [] => none
  | c :: rest =>
      if c == '\'' then some ([], rest)
      else if isControl c then none
      else do
        let (text, rest) ← readLiteral rest
        return (c :: text, rest)

def readLongLiteral : List Char → Option (List Char × List Char)
  | [] => none
  | '\'' :: '\'' :: '\'' :: rest => some ([], rest)
  | c :: rest =>
      if isControl c && c != '\n' then none
      else do
        let (text, rest) ← readLongLiteral rest
        return (c :: text, rest)

def escapeLetter? : Char → Option Char
  | 'b' => some (Char.ofNat 0x08)
  | 't' => some '\t'
  | 'n' => some '\n'
  | 'f' => some (Char.ofNat 0x0C)
  | 'r' => some '\r'
  | '"' => some '"'
  | '\\' => some '\\'
  | _ => none

def escapeCode? (digits : List Char) : Option Char := do
  let code ← hexNumber? digits
  if code ≤ 0xD7FF || (0xE000 ≤ code && code ≤ 0x10FFFF) then some (Char.ofNat code) else none

/-- What a string in double quotes is read as: text, the blanks between a backslash and the line
break it hides, or the blanks behind that line break. -/
inductive BasicMode where
  | text
  | hiding
  | hidden
  deriving DecidableEq

/-- A string in double quotes, behind the opening ones; `long` says whether they are triple. -/
def readBasic (long : Bool) (mode : BasicMode) : List Char → Option (List Char × List Char)
  | [] => none
  | c :: rest =>
      if mode = .hiding then
        if isSpace c then readBasic long .hiding rest
        else if c == '\n' then readBasic long .hidden rest
        else none
      else if mode = .hidden && (isSpace c || c == '\n') then readBasic long .hidden rest
      else if c == '"' then
        if !long then some ([], rest)
        else
          match rest with
          | '"' :: '"' :: after => some ([], after)
          | _ => do
              let (text, after) ← readBasic long .text rest
              return ('"' :: text, after)
      else if c == '\\' then
        match rest with
        | 'u' :: a :: b :: c :: d :: rest => do
            let escaped ← escapeCode? [a, b, c, d]
            let (text, after) ← readBasic long .text rest
            return (escaped :: text, after)
        | 'U' :: a :: b :: c :: d :: e :: f :: g :: h :: rest => do
            let escaped ← escapeCode? [a, b, c, d, e, f, g, h]
            let (text, after) ← readBasic long .text rest
            return (escaped :: text, after)
        | letter :: rest =>
            if long && isSpace letter then readBasic long .hiding rest
            else if long && letter == '\n' then readBasic long .hidden rest
            else do
              let escaped ← escapeLetter? letter
              let (text, after) ← readBasic long .text rest
              return (escaped :: text, after)
        | [] => none
      else if isControl c && !(long && c == '\n') then none
      else do
        let (text, after) ← readBasic long .text rest
        return (c :: text, after)

/-- Up to two quotes right behind a triple one belong to the string. -/
def takeExtraQuotes (quote : Char) (text rest : List Char) : List Char × List Char :=
  let extra := (rest.takeWhile (· == quote)).take 2
  (text ++ extra, rest.drop extra.length)

/-- A line break right behind the opening triple quotes is no part of the string. -/
def skipFirstBreak : List Char → List Char
  | '\n' :: rest => rest
  | chars => chars

def readText : List Char → Option (List Char × List Char)
  | '"' :: '"' :: '"' :: rest =>
      (readBasic true .text (skipFirstBreak rest)).map fun (text, rest) =>
        takeExtraQuotes '"' text rest
  | '"' :: rest => readBasic false .text rest
  | '\'' :: '\'' :: '\'' :: rest =>
      (readLongLiteral (skipFirstBreak rest)).map fun (text, rest) => takeExtraQuotes '\'' text rest
  | '\'' :: rest => readLiteral rest
  | _ => none

def isBare (c : Char) : Bool := c.isAlphanum || c == '-' || c == '_'

def readKeyPart : List Char → Option (String × List Char)
  | [] => none
  | c :: rest =>
      if isBare c then
        some (String.ofList ((c :: rest).takeWhile isBare), (c :: rest).dropWhile isBare)
      else if c == '\'' then (readLiteral rest).map fun (text, rest) => (String.ofList text, rest)
      else if c == '"' then
        (readBasic false .text rest).map fun (text, rest) => (String.ofList text, rest)
      else none

/-- The parts of a key, with dots between them. Each part takes a character away, so the length of
the text bounds their number. -/
def readKeyParts : Nat → List Char → Option (Key × List Char)
  | 0, _ => none
  | bound + 1, chars => do
      let (part, rest) ← readKeyPart chars
      match skipSpace rest with
      | '.' :: rest =>
          let (parts, rest) ← readKeyParts bound (skipSpace rest)
          return (part :: parts, rest)
      | rest => return ([part], rest)

def readKey (chars : List Char) : Option (Key × List Char) := readKeyParts chars.length chars

def readPair (low high : Nat) : List Char → Option (Nat × List Char)
  | a :: b :: rest =>
      if isDigit a && isDigit b && low ≤ ofDigits [a, b] && ofDigits [a, b] ≤ high then
        some (ofDigits [a, b], rest)
      else none
  | _ => none

def expect (expected : Char) : List Char → Option (List Char)
  | c :: rest => if c == expected then some rest else none
  | [] => none

def readTime (chars : List Char) : Option (List Char) := do
  let (_, rest) ← readPair 0 23 chars
  let (_, rest) ← readPair 0 59 (← expect ':' rest)
  let (_, rest) ← readPair 0 59 (← expect ':' rest)
  match rest with
  | '.' :: c :: more => return if isDigit c then more.dropWhile isDigit else rest
  | _ => return rest

def skipOffset (chars : List Char) : List Char :=
  match chars with
  | [] => []
  | c :: rest =>
      if c == 'Z' || c == 'z' then rest
      else if c == '+' || c == '-' then
        let offset : Option (List Char) := do
          let (_, rest) ← readPair 0 23 rest
          let (_, rest) ← readPair 0 59 (← expect ':' rest)
          return rest
        offset.getD chars
      else chars

def daysIn (year month : Nat) : Nat :=
  if month = 2 then
    if year % 4 = 0 && (year % 100 ≠ 0 || year % 400 = 0) then 29 else 28
  else if month = 4 || month = 6 || month = 9 || month = 11 then 30
  else 31

/-- A calendar date: whether there is such a day, and the characters behind it. -/
def readDate (chars : List Char) : Option (Bool × List Char) :=
  match chars with
  | a :: b :: c :: d :: rest =>
      if [a, b, c, d].all isDigit then do
        let (month, rest) ← readPair 1 12 (← expect '-' rest)
        let (day, rest) ← readPair 1 31 (← expect '-' rest)
        let year := ofDigits [a, b, c, d]
        return (1 ≤ year && day ≤ daysIn year month, rest)
      else none
  | _ => none

def skipTime (chars : List Char) : List Char :=
  match chars with
  | [] => []
  | c :: rest =>
      if c == 'T' || c == 't' || c == ' ' then (readTime rest).elim chars skipOffset else chars

/-- Digits of a base with single underscores between them, as far as they go. -/
def takeGrouped (isMember : Char → Bool) : List Char → List Char × List Char
  | [] => ([], [])
  | '_' :: c :: rest =>
      if isMember c then
        let (digits, rest) := takeGrouped isMember rest
        (c :: digits, rest)
      else ([], '_' :: c :: rest)
  | c :: rest =>
      if isMember c then
        let (digits, rest) := takeGrouped isMember rest
        (c :: digits, rest)
      else ([], c :: rest)

def readGrouped (isMember : Char → Bool) : List Char → Option (List Char × List Char)
  | [] => none
  | c :: rest =>
      if isMember c then
        let (digits, rest) := takeGrouped isMember rest
        some (c :: digits, rest)
      else none

def baseOf? : Char → Option Nat
  | 'x' => some 16
  | 'o' => some 8
  | 'b' => some 2
  | _ => none

def readBased : List Char → Option (Value × List Char)
  | '0' :: letter :: rest => do
      let base ← baseOf? letter
      let isMember (c : Char) : Bool := (hexValue? c).any (· < base)
      let (digits, rest) ← readGrouped isMember rest
      return (.integer (ofDigitValues base (digits.filterMap hexValue?)), rest)
  | _ => none

def readWhole : List Char → Option (List Char × List Char)
  | '0' :: rest => some (['0'], rest)
  | chars => readGrouped isDigit chars

def readFraction (chars : List Char) : List Char × List Char :=
  match chars with
  | '.' :: rest =>
      match readGrouped isDigit rest with
      | some (digits, rest) => ('.' :: digits, rest)
      | none => ([], chars)
  | _ => ([], chars)

def readExponent (chars : List Char) : List Char × List Char :=
  match chars with
  | mark :: rest =>
      if mark == 'e' || mark == 'E' then
        let sign := (rest.take 1).filter fun c => c == '+' || c == '-'
        match readGrouped isDigit (rest.drop sign.length) with
        | some (digits, rest) => (mark :: sign ++ digits, rest)
        | none => ([], chars)
      else ([], chars)
  | [] => ([], chars)

/-- A decimal number. Only a whole one is bounded in length. -/
def readDecimal (chars : List Char) : Option (Except Refusal Value × List Char) := do
  let sign := (chars.take 1).filter fun c => c == '+' || c == '-'
  let (whole, rest) ← readWhole (chars.drop sign.length)
  let (fraction, rest) := readFraction rest
  let (exponent, rest) := readExponent rest
  match fraction ++ exponent with
  | [] =>
      if digitLimit < whole.length then return (.error (.longInteger whole.length), rest)
      else
        let value := ofDigits whole
        return (.ok (.integer (if sign = ['-'] then -value else value)), rest)
  | tail => return (.ok (.decimal (String.ofList (sign ++ whole ++ tail))), rest)

def readUnbounded (chars : List Char) : Option (Value × List Char) :=
  let sign := (chars.take 1).filter fun c => c == '+' || c == '-'
  match chars.drop sign.length with
  | 'i' :: 'n' :: 'f' :: rest => some (.unbounded, rest)
  | 'n' :: 'a' :: 'n' :: rest => some (.unbounded, rest)
  | _ => none

def readPlain (chars : List Char) : Except Refusal (Value × List Char) :=
  match readDate chars with
  | some (isDay, rest) => if isDay then .ok (.moment, skipTime rest) else .error .malformed
  | none =>
      match readTime chars, readBased chars, readDecimal chars with
      | some rest, _, _ => .ok (.moment, rest)
      | none, some result, _ => .ok result
      | none, none, some (value, rest) => value.map fun value => (value, rest)
      | none, none, none => orMalformed (readUnbounded chars)

end RpgSymbols.Toml
