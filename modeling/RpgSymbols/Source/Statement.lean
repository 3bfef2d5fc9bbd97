import RpgSymbols.Text.Blank
import RpgSymbols.Text.Case.Upper

/-!
Statements of free-format source. A line is trimmed, cut at its first semicolon and split into
words; the first word in upper case selects the operation.
-/

namespace RpgSymbols

open Text

def freeMarker : String := "**FREE"

/-- Whether a text is free-format source: it begins with the marker, in any case. -/
def isFreeFormat (text : String) : Bool :=
  upper (String.ofList (text.toList.take freeMarker.length)) == freeMarker

/-- The words of a line before its first semicolon, as the source writes them. -/
def displayWords (line : String) : List String := words (before ';' line)

inductive Operation where
  | docMarker
  | constant
  | standalone
  | openStructure
  | closeStructure
  | openPrototype
  | closePrototype
  | openProcedure
  | openInterface
  | closeInterface
  | closeProcedure
  | openSubroutine
  | closeSubroutine
  deriving DecidableEq, Repr

def Operation.ofWord? (word : String) : Option Operation :=
  match word with
  | "///" => some .docMarker
  | "DCL-C" => some .constant
  | "DCL-S" => some .standalone
  | "DCL-DS" => some .openStructure
  | "END-DS" => some .closeStructure
  | "DCL-PR" => some .openPrototype
  | "END-PR" => some .closePrototype
  | "DCL-PROC" => some .openProcedure
  | "DCL-PI" => some .openInterface
  | "END-PI" => some .closeInterface
  | "END-PROC" => some .closeProcedure
  | "BEGSR" => some .openSubroutine
  | "ENDSR" => some .closeSubroutine
  | _ => none

/-- A line with at least one word: the trimmed line, its first word and the others. -/
structure Statement where
  line : String
  first : String
  others : List String
  deriving DecidableEq, Repr

namespace Statement

/-- The statement of a line, if it has a word before its first semicolon. -/
def ofLine? (raw : String) : Option Statement :=
  let line := trim raw
  match displayWords line with
  | [] => none
  | first :: others => some ⟨line, first, others⟩

def operation? (statement : Statement) : Option Operation :=
  Operation.ofWord? (upper statement.first)

end Statement

/-- The keyword of declarations that only serve as patterns for others. -/
def templateKeyword : String := "TEMPLATE"

/-- The beginnings of keywords that make the closing statement of an operation unnecessary. -/
def oneLineTriggers (word : String) : List String :=
  match word with
  | "DCL-DS" => ["LIKEDS", "LIKEREC", "END-DS"]
  | "DCL-PR" => ["OVERLOAD", "END-PR"]
  | "DCL-PI" => ["END-PI"]
  | _ => []

def endsOnItsLine (word : String) (keywords : List String) : Bool :=
  keywords.any fun keyword => (oneLineTriggers word).any (startsWith keyword)

end RpgSymbols
