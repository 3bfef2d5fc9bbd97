import RpgSymbols.Json.Value
import RpgSymbols.Number.Binary64
import RpgSymbols.Table
import RpgSymbols.Text.Hex
import RpgSymbols.Text.Utf8

/-!
Strict JSON reading: no comments, no trailing commas, no control characters inside strings, no
numbers beyond the range of 64-bit floating point. Of two fields with one key the later value
counts. Each reader returns what it read and the characters after it.
-/

namespace RpgSymbols.Json

open Number Text

/-- The four characters that may stand between tokens. -/
def isGap (c : Char) : Bool := c == ' ' || c == '\t' || c == '\n' || c == '\r'

def skipGap (chars : List Char) : List Char := chars.dropWhile isGap

def shortEscape? : Char → Option Char
  | '"' => some '"'
  | '\\' => some '\\'
  | '/' => some '/'
  | 'b' => some (Char.ofNat 0x08)
  | 'f' => some (Char.ofNat 0x0C)
  | 'n' => some '\n'
  | 'r' => some '\r'
  | 't' => some '\t'
  | _ => none

def isHighSurrogate (code : Nat) : Bool := 0xD800 ≤ code && code ≤ 0xDBFF

def isLowSurrogate (code : Nat) : Bool := 0xDC00 ≤ code && code ≤ 0xDFFF

def surrogateChar (high low : Nat) : Char :=
  Char.ofNat (0x10000 + (high - 0xD800) * 0x400 + (low - 0xDC00))

/-- A character of a string as it is written: itself, or the code of a numbered escape. -/
inductive StringUnit where
  | char (c : Char)
  | code (value : Nat)

/-- The rest of a string as it is written, up to and including its closing quote. -/
def readUnits : List Char → Option (List StringUnit × List Char)
  | [] => none
  | '"' :: rest => some ([], rest)
  | '\\' :: 'u' :: a :: b :: c :: d :: rest => do
      let code ← hexNumber? [a, b, c, d]
      let (units, rest) ← readUnits rest
      some (.code code :: units, rest)
  | '\\' :: letter :: rest => do
      let c ← shortEscape? letter
      let (units, rest) ← readUnits rest
      some (.char c :: units, rest)
  | c :: rest =>
      if c == '\\' || c.toNat < 0x20 then none
      else do
        let (units, rest) ← readUnits rest
        some (.char c :: units, rest)

/-- The characters of a string: the two halves of a surrogate pair become one character, and half
a pair is refused. -/
def joinUnits : List StringUnit → Option (List Char)
  | [] => some []
  | .char c :: rest => (joinUnits rest).map (c :: ·)
  | .code high :: .code low :: rest =>
      if isHighSurrogate high then
        if isLowSurrogate low then (joinUnits rest).map (surrogateChar high low :: ·) else none
      else if isLowSurrogate high then none
      else (joinUnits (.code low :: rest)).map (Char.ofNat high :: ·)
  | .code value :: rest =>
      if isHighSurrogate value || isLowSurrogate value then none
      else (joinUnits rest).map (Char.ofNat value :: ·)

def readString (chars : List Char) : Option (List Char × List Char) := do
  let (units, rest) ← readUnits chars
  let text ← joinUnits units
  some (text, rest)

def readDigits (chars : List Char) : Option (List Char × List Char) :=
  match chars.takeWhile isDigit with
  | [] => none
  | digits => some (digits, chars.dropWhile isDigit)

/-- The whole part of a number: a zero alone, or digits that do not begin with a zero. -/
def readWholePart : List Char → Option (List Char × List Char)
  | '0' :: rest => some (['0'], rest)
  | chars => readDigits chars

def readFraction : List Char → Option (List Char × List Char)
  | '.' :: rest => (readDigits rest).map fun (digits, rest) => ('.' :: digits, rest)
  | chars => some ([], chars)

def readExponent : List Char → Option (List Char × List Char)
  | mark :: sign :: rest =>
      if mark == 'e' || mark == 'E' then
        if sign == '+' || sign == '-' then
          (readDigits rest).map fun (digits, rest) => (mark :: sign :: digits, rest)
        else (readDigits (sign :: rest)).map fun (digits, rest) => (mark :: digits, rest)
      else some ([], mark :: sign :: rest)
  | [mark] => if mark == 'e' || mark == 'E' then none else some ([], [mark])
  | [] => some ([], [])

/-- The value of a number's parts. A whole number that 64 bits cannot hold, signed if negative and
unsigned if not, is a decimal too. -/
def numberValue (negative : Bool) (whole tail : List Char) : Option Json :=
  let signed (chars : List Char) : List Char := if negative then '-' :: chars else chars
  let asDecimal (tail : List Char) : Option Json :=
    let chars := signed (whole ++ tail)
    if (Decimal.ofChars chars).rounded = .infinite then none
    else some (.decimal (String.ofList chars))
  match tail with
  | [] =>
      let value := ofDigits whole
      if negative then
        if value ≤ 0x8000000000000000 then some (.int (-value)) else asDecimal ['.', '0']
      else if value ≤ 0xFFFFFFFFFFFFFFFF then some (.int value) else asDecimal ['.', '0']
  | tail => asDecimal tail

def readUnsigned (negative : Bool) (chars : List Char) : Option (Json × List Char) := do
  let (whole, rest) ← readWholePart chars
  let (fraction, rest) ← readFraction rest
  let (exponent, rest) ← readExponent rest
  let value ← numberValue negative whole (fraction ++ exponent)
  some (value, rest)

def readNumber : List Char → Option (Json × List Char)
  | '-' :: rest => readUnsigned true rest
  | chars => readUnsigned false chars

def depthLimit : Nat := 1024

mutual
/-- A value. `fuel` bounds the number of calls and `depth` the nesting still allowed. -/
def readValue (fuel depth : Nat) (chars : List Char) : Option (Json × List Char) :=
  match fuel with
  | 0 => none
  | fuel + 1 =>
      match skipGap chars with
      | 'n' :: 'u' :: 'l' :: 'l' :: rest => some (.null, rest)
      | 't' :: 'r' :: 'u' :: 'e' :: rest => some (.bool true, rest)
      | 'f' :: 'a' :: 'l' :: 's' :: 'e' :: rest => some (.bool false, rest)
      | '"' :: rest => (readString rest).map fun (text, rest) => (.str (String.ofList text), rest)
      | '[' :: rest =>
          match depth with
          | 0 => none
          | depth + 1 =>
              match skipGap rest with
              | ']' :: rest => some (.arr [], rest)
              | rest => do
                  let (item, rest) ← readValue fuel depth rest
                  let (items, rest) ← readItems fuel depth rest
                  some (.arr (item :: items), rest)
      | '{' :: rest =>
          match depth with
          | 0 => none
          | depth + 1 =>
              match skipGap rest with
              | '}' :: rest => some (.obj [], rest)
              | rest => do
                  let (key, value, rest) ← readField fuel depth rest
                  let (fields, rest) ← readFields fuel depth [(key, value)] rest
                  some (.obj fields, rest)
      | rest => readNumber rest

def readItems (fuel depth : Nat) (chars : List Char) : Option (List Json × List Char) :=
  match fuel with
  | 0 => none
  | fuel + 1 =>
      match skipGap chars with
      | ']' :: rest => some ([], rest)
      | ',' :: rest => do
          let (item, rest) ← readValue fuel depth rest
          let (items, rest) ← readItems fuel depth rest
          some (item :: items, rest)
      | _ => none

def readField (fuel depth : Nat) (chars : List Char) : Option (String × Json × List Char) :=
  match fuel with
  | 0 => none
  | fuel + 1 =>
      match skipGap chars with
      | '"' :: rest => do
          let (key, rest) ← readString rest
          match skipGap rest with
          | ':' :: rest => do
              let (value, rest) ← readValue fuel depth rest
              some (String.ofList key, value, rest)
          | _ => none
      | _ => none

def readFields (fuel depth : Nat) (sofar : List (String × Json)) (chars : List Char) :
    Option (List (String × Json) × List Char) :=
  match fuel with
  | 0 => none
  | fuel + 1 =>
      match skipGap chars with
      | '}' :: rest => some (sofar, rest)
      | ',' :: rest => do
          let (key, value, rest) ← readField fuel depth rest
          readFields fuel depth (Table.set key value sofar) rest
      | _ => none
end

/-- The value of a whole text. Every call but the last takes a character away, so twice the length
of the text is fuel enough. -/
def parseChars? (chars : List Char) : Option Json := do
  let (value, rest) ← readValue (2 * chars.length + 2) depthLimit chars
  if (skipGap rest).isEmpty then some value else none

def parse? (text : String) : Option Json := parseChars? text.toList

def parseBytes? (bytes : List UInt8) : Option Json := (decodeStrict? bytes).bind parseChars?

end RpgSymbols.Json
