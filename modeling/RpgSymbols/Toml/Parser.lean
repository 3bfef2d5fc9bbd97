import RpgSymbols.Toml.Scalar

/-!
TOML documents. A document is a sequence of statements, one a line: a key with its value, or the
header of a table. A table is given once, and what was written in one piece stays as it is.
-/

namespace RpgSymbols.Toml

open Text

/-- Takes a key and its value into an inline table; keys in `closed` hold finished values. -/
def assignInline (closed : List Key) (key : Key) (value : Value) (entries : Table Value) :
    Option (Table Value) :=
  match key.getLast? with
  | none => none
  | some name =>
      if Draft.isClosed closed key then none
      else changeTable false (addEntry name value) key.dropLast entries

/-- The room for nested values; an array takes up two parts of it and an inline table three. -/
def nestingRoom : Nat := 984

def enter (cost room : Nat) : Except Refusal Nat :=
  if room < cost then .error .tooDeep else .ok (room - cost)

mutual
def readValue (fuel room : Nat) (chars : List Char) : Except Refusal (Value × List Char) :=
  match fuel with
  | 0 => .error .malformed
  | fuel + 1 =>
      match chars with
      | [] => .error .malformed
      | c :: rest =>
          if c == '"' || c == '\'' then do
            let (text, rest) ← orMalformed (readText chars)
            return (.text (String.ofList text), rest)
          else if c == '[' then do
            let room ← enter 2 room
            match ← orMalformed (skipLines false rest) with
            | ']' :: rest => return (.array [], rest)
            | rest =>
                let (items, rest) ← readItems fuel room rest
                return (.array items, rest)
          else if c == '{' then do
            let room ← enter 3 room
            match skipSpace rest with
            | '}' :: rest => return (.table [], rest)
            | rest => readEntries fuel room [] [] rest
          else if ['t', 'r', 'u', 'e'].isPrefixOf chars then .ok (.boolean true, chars.drop 4)
          else if ['f', 'a', 'l', 's', 'e'].isPrefixOf chars then
            .ok (.boolean false, chars.drop 5)
          else readPlain chars

/-- The items of an array up to its closing bracket; a comma may stand before it. -/
def readItems (fuel room : Nat) (chars : List Char) : Except Refusal (List Value × List Char) :=
  match fuel with
  | 0 => .error .malformed
  | fuel + 1 => do
      let (item, rest) ← readValue fuel room chars
      match ← orMalformed (skipLines false rest) with
      | ']' :: rest => return ([item], rest)
      | ',' :: rest =>
          match ← orMalformed (skipLines false rest) with
          | ']' :: rest => return ([item], rest)
          | rest =>
              let (items, rest) ← readItems fuel room rest
              return (item :: items, rest)
      | _ => .error .malformed

/-- The entries of an inline table up to its closing brace, on one line and without a final
comma. -/
def readEntries (fuel room : Nat) (closed : List Key) (entries : Table Value)
    (chars : List Char) : Except Refusal (Value × List Char) :=
  match fuel with
  | 0 => .error .malformed
  | fuel + 1 => do
      let (key, rest) ← orMalformed (readKey chars)
      let (value, rest) ← readValue fuel room (skipSpace (← orMalformed (expect '=' rest)))
      let entries ← orMalformed (assignInline closed key value entries)
      match skipSpace rest with
      | '}' :: rest => return (.table entries, rest)
      | ',' :: rest =>
          let closed := if value.isContainer then key :: closed else closed
          readEntries fuel room closed entries (skipSpace rest)
      | _ => .error .malformed
end

def readAssignment (draft : Draft) (chars : List Char) : Except Refusal (Draft × List Char) := do
  let (key, rest) ← orMalformed (readKey chars)
  let rest := skipSpace (← orMalformed (expect '=' rest))
  let (value, rest) ← readValue (2 * rest.length + 2) nestingRoom rest
  return (← orMalformed (draft.assign key value), rest)

def readHeader (draft : Draft) : List Char → Option (Draft × List Char)
  | '[' :: rest => do
      let (key, rest) ← readKey (skipSpace rest)
      let draft ← draft.endSection.openArrayTable key
      return (draft, ← expect ']' (← expect ']' rest))
  | rest => do
      let (key, rest) ← readKey (skipSpace rest)
      let draft ← draft.endSection.openTable key
      return (draft, ← expect ']' rest)

/-- One statement. Nothing but blanks and a comment may follow it on its line. -/
def readStatement (draft : Draft) (chars : List Char) : Except Refusal (Draft × List Char) :=
  match chars with
  | [] => .ok (draft, [])
  | c :: rest =>
      if c == '\n' || c == '#' then .ok (draft, chars)
      else if c == '[' then orMalformed (readHeader draft rest)
      else readAssignment draft chars

/-- The statements of a document. Each takes up a line, so the length of the text bounds their
number. -/
def readStatements : Nat → Draft → List Char → Except Refusal Draft
  | 0, _, _ => .error .malformed
  | bound + 1, draft, chars => do
      let (draft, rest) ← readStatement draft (skipSpace chars)
      let rest ← match skipSpace rest with
        | '#' :: comment => orMalformed (skipComment comment)
        | rest => .ok rest
      match rest with
      | [] => return draft
      | '\n' :: rest => readStatements bound draft rest
      | _ => .error .malformed

def dropReturns : List Char → List Char
  | [] => []
  | '\r' :: '\n' :: rest => '\n' :: dropReturns rest
  | c :: rest => c :: dropReturns rest

def parseChars (chars : List Char) : Except Refusal (Table Value) :=
  let chars := dropReturns chars
  (readStatements (chars.length + 1) {} chars).map Draft.root

end RpgSymbols.Toml
