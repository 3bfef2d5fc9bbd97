import RpgSymbols.Pattern.Class
import RpgSymbols.Text.Blank

/-!
Ignore rules. Each line of an ignore file becomes an expression that is searched in the path of a
file, relative to the directory of the ignore file. The expression is only read when a file is
tested, so a faulty class goes unnoticed until then.
-/

namespace RpgSymbols.Pattern

open Text

/-- Why a rule cannot be used: its pattern ends too early, or its expression cannot be read. -/
inductive IgnoreError where
  | patternTooShort
  | faultyExpression
  deriving DecidableEq, Repr

def IgnoreError.message : IgnoreError → String
  | .patternTooShort => "string index out of range"
  | .faultyExpression => "bad character range"

def leadingStars (chars : List Char) : Nat := (chars.takeWhile (· == '*')).length

/-- Two stars or more behind a character other than a slash count as one. The next `passed`
characters were dealt with. -/
def collapseAfter : Nat → List Char → List Char
  | _, [] => []
  | passed + 1, _ :: rest => collapseAfter passed rest
  | 0, c :: rest =>
      let stars := leadingStars rest
      if c ≠ '/' && 2 ≤ stars then c :: '*' :: collapseAfter stars rest
      else c :: collapseAfter 0 rest

/-- Two stars or more before a character other than a slash count as one; that character may be the
last of the stars. -/
def collapseBefore : Nat → List Char → List Char
  | _, [] => []
  | passed + 1, _ :: rest => collapseBefore passed rest
  | 0, c :: rest =>
      let stars := leadingStars (c :: rest)
      match (c :: rest).drop stars with
      | next :: _ =>
          if 2 ≤ stars && next ≠ '/' then '*' :: next :: collapseBefore stars rest
          else if 3 ≤ stars then '*' :: '*' :: collapseBefore (stars - 1) rest
          else c :: collapseBefore 0 rest
      | [] =>
          if 3 ≤ stars then '*' :: '*' :: collapseBefore (stars - 1) rest
          else c :: collapseBefore 0 rest

/-- Spaces at the end of a pattern, which is given last character first: they are dropped, but
a backslash before one protects it and the ones before it, and is itself dropped. The first two
characters of a pattern never count as its end. -/
def dropFinalSpaces (dropping : Bool) : List Char → List Char
  | ' ' :: '\\' :: c :: rest => ' ' :: dropFinalSpaces false (c :: rest)
  | ' ' :: c :: d :: rest =>
      if dropping then dropFinalSpaces dropping (c :: d :: rest)
      else ' ' :: dropFinalSpaces dropping (c :: d :: rest)
  | chars => chars

/-- A rule: the expression of its pattern, where the search begins, and whether it makes files
count as not ignored. -/
structure IgnoreRule where
  negated : Bool
  anchored : Bool
  expression : List Sign
  deriving DecidableEq, Repr

def plainSigns (text : String) : List Sign := text.toList.map .plain

/-- The signs of a class with the given text. Slashes are left out; a class of slashes alone has no
first character. -/
def classSigns (text : List Char) : Except IgnoreError (List Sign) :=
  let member (c : Char) : Sign := if c = '\\' then .literal c else .plain c
  match text.filter (· != '/') with
  | [] => .error .patternTooShort
  | '!' :: rest => .ok (.plain '[' :: .plain '^' :: rest.map member ++ [.plain ']'])
  | '^' :: rest => .ok (.plain '[' :: .literal '^' :: rest.map member ++ [.plain ']'])
  | chars => .ok (.plain '[' :: chars.map member ++ [.plain ']'])

/-- The signs of a pattern, after the `passed` characters that were dealt with. One star stays
within a name; two stand for any text, and with a slash behind them for any directories. -/
def patternSigns : Nat → List Char → Except IgnoreError (List Sign)
  | _, [] => .ok []
  | passed + 1, _ :: rest => patternSigns passed rest
  | 0, '*' :: '*' :: '/' :: rest => do
      return plainSigns "(.*/)?" ++ (← patternSigns 2 ('*' :: '/' :: rest))
  | 0, '*' :: '*' :: rest => do return plainSigns ".*" ++ (← patternSigns 1 ('*' :: rest))
  | 0, '*' :: rest => do return plainSigns "[^/]*" ++ (← patternSigns 0 rest)
  | 0, '?' :: rest => do return plainSigns "[^/]" ++ (← patternSigns 0 rest)
  | 0, '/' :: rest => do return plainSigns "[/]" ++ (← patternSigns 0 rest)
  | 0, '[' :: rest => do
      match classText? rest with
      | none => return .literal '[' :: (← patternSigns 0 rest)
      | some text => return (← classSigns text) ++ (← patternSigns (text.length + 1) rest)
  | 0, c :: rest => do return .literal c :: (← patternSigns 0 rest)

def nonEmpty (chars : List Char) : Except IgnoreError (List Char) :=
  if chars.isEmpty then .error .patternTooShort else .ok chars

def withoutLeadingSlash (chars : List Char) : List Char :=
  if chars.head? == some '/' then chars.drop 1 else chars

def withoutFinalSlash (chars : List Char) : List Char :=
  if chars.getLast? == some '/' then chars.dropLast else chars

def withoutEscape : List Char → Except IgnoreError (List Char)
  | ['\\'] => .error .patternTooShort
  | '\\' :: c :: rest => .ok (if c = '#' || c = '!' then c :: rest else '\\' :: c :: rest)
  | chars => .ok chars

def ruleOfPattern (negated : Bool) (pattern : List Char) : Except IgnoreError IgnoreRule := do
  let pattern ← nonEmpty pattern
  let directoryOnly := pattern.getLast? == some '/'
  let slashed := pattern.dropLast.contains '/'
  let pattern ← nonEmpty (withoutLeadingSlash pattern)
  let everywhere := ['*', '*'].isPrefixOf pattern
  let pattern ← nonEmpty (if everywhere then pattern.drop 2 else pattern)
  let pattern ← nonEmpty (withoutLeadingSlash pattern)
  let pattern ← nonEmpty (withoutFinalSlash pattern)
  let pattern ← withoutEscape pattern
  let pattern := (dropFinalSpaces true pattern.reverse).reverse
  let body ← patternSigns 0 pattern
  let ending :=
    if !directoryOnly then [.plain '$']
    else if negated then [.plain '/', .plain '$']
    else [.plain '(', .plain '$', .plain '|', .literal '/', .plain ')']
  return ⟨negated, slashed && !everywhere, body ++ ending⟩

/-- The rule of a line, if the line is neither blank nor a comment nor a slash alone. -/
def ruleOfLine (line : List Char) : Except IgnoreError (Option IgnoreRule) :=
  if (trimChars line).isEmpty || line.head? == some '#' then .ok none
  else
    let negated := line.head? == some '!'
    let pattern := collapseBefore 0 (collapseAfter 0 (if negated then line.drop 1 else line))
    if trimRightChars pattern = ['/'] then .ok none
    else (ruleOfPattern negated pattern).map some

inductive SearchPiece where
  | char (c : Char)
  | oneOf (set : CharClass)
  | manyOf (set : CharClass)
  | directories
  | ending
  | endingOrSlash
  deriving DecidableEq, Repr

def notLineFeed : CharClass := ⟨true, [('\n', '\n')]⟩

/-- A class behind its opening bracket, and the number of signs it takes up. -/
def readClass? (signs : List Sign) : Option (CharClass × Nat) :=
  let negated := signs.head? == some (.plain '^')
  let body := if negated then signs.drop 1 else signs
  (readRanges true body).map fun (ranges, rest) =>
    (⟨negated, ranges⟩, signs.length - rest.length)

def readPieces : Nat → List Sign → Option (List SearchPiece)
  | _, [] => some []
  | passed + 1, _ :: rest => readPieces passed rest
  | 0, .literal c :: rest => (readPieces 0 rest).map (.char c :: ·)
  | 0, .plain c :: rest =>
      if c = '(' && plainSigns ".*/)?" = rest.take 5 then
        (readPieces 5 rest).map (.directories :: ·)
      else if c = '(' then (readPieces 4 rest).map (.endingOrSlash :: ·)
      else if c = '.' then (readPieces 1 rest).map (.manyOf notLineFeed :: ·)
      else if c = '$' then (readPieces 0 rest).map (.ending :: ·)
      else if c = '[' then
        match readClass? rest with
        | none => none
        | some (set, taken) =>
            if (rest.drop taken).head? = some (.plain '*') then
              (readPieces (taken + 1) rest).map (.manyOf set :: ·)
            else (readPieces taken rest).map (.oneOf set :: ·)
      else (readPieces 0 rest).map (.char c :: ·)

/-- What may remain of a text after members of a class were taken from its front. -/
def remainders (set : CharClass) : List Char → List (List Char)
  | [] => [[]]
  | c :: rest => if set.holds c then (c :: rest) :: remainders set rest else [c :: rest]

/-- Whether a text has ended, but perhaps for a final line feed. -/
def isEnding (text : List Char) : Bool := text.isEmpty || text == ['\n']

def piecesMatch : List SearchPiece → List Char → Bool
  | [], _ => true
  | .char expected :: rest, text =>
      match text with
      | [] => false
      | c :: more => c == expected && piecesMatch rest more
  | .oneOf set :: rest, text =>
      match text with
      | [] => false
      | c :: more => set.holds c && piecesMatch rest more
  | .manyOf set :: rest, text => (remainders set text).any (piecesMatch rest)
  | .directories :: rest, text =>
      piecesMatch rest text || (remainders notLineFeed text).any fun remainder =>
        match remainder with
        | '/' :: more => piecesMatch rest more
        | _ => false
  | .ending :: rest, text => isEnding text && piecesMatch rest text
  | .endingOrSlash :: rest, text =>
      (isEnding text && piecesMatch rest text) ||
        match text with
        | '/' :: more => piecesMatch rest more
        | _ => false

def behindSlashes : List Char → List (List Char)
  | [] => []
  | c :: rest => if c = '/' then rest :: behindSlashes rest else behindSlashes rest

/-- Whether a rule applies to a relative path. A rule that is not anchored is tried at the start
and behind every slash. -/
def IgnoreRule.applies (rule : IgnoreRule) (path : List Char) : Except IgnoreError Bool :=
  match readPieces 0 rule.expression with
  | none => .error .faultyExpression
  | some pieces =>
      let starts := if rule.anchored then [path] else path :: behindSlashes path
      .ok (starts.any (piecesMatch pieces))

/-- Whether some rule applies; the rules are tried in order, and those behind the first that
applies are not read. -/
def someApplies (path : List Char) : List IgnoreRule → Except IgnoreError Bool
  | [] => .ok false
  | rule :: rest => do if ← rule.applies path then return true else someApplies path rest

def firstVerdict (path : List Char) : List IgnoreRule → Except IgnoreError Bool
  | [] => .ok false
  | rule :: rest => do if ← rule.applies path then return !rule.negated else firstVerdict path rest

structure IgnoreFile where
  directory : List String
  rules : List IgnoreRule
  deriving Repr

def rulesOfText (text : List Char) : Except IgnoreError (List IgnoreRule) := do
  let rules ← (pieces (· == '\n') text).mapM ruleOfLine
  return rules.filterMap id

/-- Whether an ignore file makes a file ignored. Where a rule is negated, the last one that applies
decides; files outside the directory are not touched. -/
def IgnoreFile.ignores (file : IgnoreFile) (names : List String) : Except IgnoreError Bool :=
  if file.directory.isPrefixOf names then
    let path := (join "/" (names.drop file.directory.length)).toList
    if file.rules.any IgnoreRule.negated then firstVerdict path file.rules.reverse
    else someApplies path file.rules
  else .ok false

def ignoredBySome (names : List String) : List IgnoreFile → Except IgnoreError Bool
  | [] => .ok false
  | file :: rest => do if ← file.ignores names then return true else ignoredBySome names rest

end RpgSymbols.Pattern
