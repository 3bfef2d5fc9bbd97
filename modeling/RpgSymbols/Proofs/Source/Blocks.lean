import RpgSymbols.Proofs.Source.Instruction
import RpgSymbols.Proofs.Source.OnePerName

/-!
Well-formed source as a list of blocks, and the declarations it makes. A line carries the proof of
what it is read as, so a block cannot be put together wrongly. What a block declares is said without
the assembler: it depends on the block and on the number of its first line.
-/

namespace RpgSymbols

open Text

structure InertLine where
  raw : String
  inert : Inert raw

structure OperationLine (operation : Operation) where
  raw : String
  others : List String
  reads : instruction? raw = some (operation, others)

structure NamedLine (operation : Operation) where
  raw : String
  name : String
  display : List String
  reads : instruction? raw = some (operation, name :: display)

/-- A local declaration in the body of a procedure, or the end of one. It need not have a name. -/
structure LocalLine where
  operation : Operation
  line : OperationLine operation
  isLocal : operation ∈ [.constant, .standalone, .openStructure, .closeStructure]

def NamedLine.keywords {operation : Operation} (line : NamedLine operation) : List String :=
  line.display.map upper

/-- The words of an interface line behind the place of its name. -/
def OperationLine.display {operation : Operation} (line : OperationLine operation) :
    List String :=
  line.others.drop 1

def OperationLine.keywords {operation : Operation} (line : OperationLine operation) :
    List String :=
  line.display.map upper

/-- An interface on one line, or with parameters up to a closing line. -/
inductive Interface where
  | line (opening : OperationLine .openInterface)
      (ends : endsOnItsLine "DCL-PI" opening.keywords = true)
  | block (opening : OperationLine .openInterface)
      (lasts : endsOnItsLine "DCL-PI" opening.keywords = false) (parameters : List InertLine)
      (ending : OperationLine .closeInterface)

inductive BodyPart where
  | inert (line : InertLine)
  | declaration (line : LocalLine)
  | subroutine (opening : NamedLine .openSubroutine) (lines : List InertLine)
      (ending : OperationLine .closeSubroutine)

inductive Block where
  | inert (line : InertLine)
  | constant (line : NamedLine .constant)
  | standalone (line : NamedLine .standalone)
  | structureLine (opening : NamedLine .openStructure)
      (ends : endsOnItsLine "DCL-DS" opening.keywords = true)
  | structureBlock (opening : NamedLine .openStructure)
      (lasts : endsOnItsLine "DCL-DS" opening.keywords = false) (lines : List InertLine)
      (ending : OperationLine .closeStructure)
  | prototypeLine (opening : NamedLine .openPrototype)
      (ends : endsOnItsLine "DCL-PR" opening.keywords = true)
  | prototypeBlock (opening : NamedLine .openPrototype)
      (lasts : endsOnItsLine "DCL-PR" opening.keywords = false) (parameters : List InertLine)
      (ending : OperationLine .closePrototype)
  | subroutine (opening : NamedLine .openSubroutine) (lines : List InertLine)
      (ending : OperationLine .closeSubroutine)
  | procedure (opening : NamedLine .openProcedure) (lines : List InertLine)
      (interface : Option Interface) (body : List BodyPart)
      (ending : OperationLine .closeProcedure)

/-! The lines of a block. -/

def Interface.lines : Interface → List String
  | .line opening _ => [opening.raw]
  | .block opening _ parameters ending =>
      opening.raw :: (parameters.map InertLine.raw ++ [ending.raw])

def BodyPart.lines : BodyPart → List String
  | .inert line => [line.raw]
  | .declaration line => [line.line.raw]
  | .subroutine opening lines ending => opening.raw :: (lines.map InertLine.raw ++ [ending.raw])

def preamble (lines : List InertLine) (interface : Option Interface) : List String :=
  lines.map InertLine.raw ++ (interface.map Interface.lines).getD []

def Block.lines : Block → List String
  | .inert line => [line.raw]
  | .constant line => [line.raw]
  | .standalone line => [line.raw]
  | .structureLine opening _ => [opening.raw]
  | .structureBlock opening _ lines ending =>
      opening.raw :: (lines.map InertLine.raw ++ [ending.raw])
  | .prototypeLine opening _ => [opening.raw]
  | .prototypeBlock opening _ parameters ending =>
      opening.raw :: (parameters.map InertLine.raw ++ [ending.raw])
  | .subroutine opening lines ending => opening.raw :: (lines.map InertLine.raw ++ [ending.raw])
  | .procedure opening lines interface body ending =>
      opening.raw :: (preamble lines interface ++ (body.flatMap BodyPart.lines ++ [ending.raw]))

/-! What a block declares. -/

/-- Records of each kind in the order of their lines. Names may occur more than once. -/
structure Records where
  constants : List Declaration := []
  standalones : List Declaration := []
  structures : List Declaration := []
  procedures : List IndexedProcedure := []
  subroutines : List Declaration := []

instance : Append Records where
  append first second :=
    { constants := first.constants ++ second.constants
      standalones := first.standalones ++ second.standalones
      structures := first.structures ++ second.structures
      procedures := first.procedures ++ second.procedures
      subroutines := first.subroutines ++ second.subroutines }

/-- The model of records: one procedure and one subroutine for each name. -/
def Records.model (records : Records) : Model where
  constants := records.constants
  standalones := records.standalones
  structures := records.structures
  procedures := (ProcedureIndex.merged records.procedures).toList
  subroutines := firstNamed records.subroutines

def undocumented (kind : Kind) (name : String) (display : List String) (position : Position)
    (subItems : List Declaration) : Declaration where
  kind := kind
  name := name
  keywords := display.map upper
  displayKeywords := display
  position := some position
  subItems := subItems

/-- The parameter that a line declares. Parameters are counted from zero; one without a name is
named by its place. -/
def parameterOf? (raw : String) (ordinal : Nat) (position : Position) : Option Declaration :=
  match parameterLine? raw with
  | some (first :: display) =>
      let name :=
        if upper first = anonymousWord then "parm" ++ Number.natText (ordinal + 1) else first
      some (undocumented .subitem name display position [])
  | _ => none

/-- The parameters of numbered lines, behind those that were counted before. -/
def parametersOf (path : String) : Nat → Nat → List InertLine → List Declaration
  | _, _, [] => []
  | number, ordinal, line :: rest =>
      let declared := (parameterOf? line.raw ordinal ⟨path, number⟩).toList
      declared ++ parametersOf path (number + 1) (ordinal + declared.length) rest

def Interface.display : Interface → List String
  | .line opening _ => opening.display.filter fun word => upper word != "END-PI"
  | .block opening _ _ _ => opening.display.filter fun word => upper word != "END-PI"

def Interface.parameters (path : String) (number : Nat) : Interface → List Declaration
  | .line _ _ => []
  | .block _ _ parameters _ => parametersOf path (number + 1) 0 parameters

/-- The record of a procedure with a body. The words of its interface take the place of its own. -/
def procedureRecord (path : String) (number : Nat) (opening : NamedLine .openProcedure)
    (lines : List InertLine) (interface : Option Interface) : IndexedProcedure where
  declaration := undocumented .procedure opening.name
    ((interface.map Interface.display).getD opening.display) ⟨path, number⟩
    ((interface.map (Interface.parameters path (number + 1 + lines.length))).getD [])
  form := .definition

/-- The record of a subroutine; what follows the name is dropped. -/
def subroutineRecord (path : String) (number : Nat) (opening : NamedLine .openSubroutine) :
    Declaration :=
  undocumented .subroutine opening.name [] ⟨path, number⟩ []

/-- Local declarations are no records; a subroutine is one wherever it stands. -/
def BodyPart.records (path : String) (number : Nat) : BodyPart → Records
  | .inert _ => {}
  | .declaration _ => {}
  | .subroutine opening _ _ => { subroutines := [subroutineRecord path number opening] }

def bodyRecords (path : String) : Nat → List BodyPart → Records
  | _, [] => {}
  | number, part :: rest =>
      part.records path number ++ bodyRecords path (number + part.lines.length) rest

/-- What a block declares whose first line has the given number. Templates are no records. -/
def Block.records (path : String) (number : Nat) : Block → Records
  | .inert _ => {}
  | .constant line =>
      { constants := [undocumented .constant line.name line.display ⟨path, number⟩ []] }
  | .standalone line =>
      if templateKeyword ∈ line.keywords then {}
      else { standalones := [undocumented .standalone line.name line.display ⟨path, number⟩ []] }
  | .structureLine opening _ | .structureBlock opening _ _ _ =>
      if templateKeyword ∈ opening.keywords then {}
      else { structures :=
        [undocumented .dataStructure opening.name opening.display ⟨path, number⟩ []] }
  | .prototypeLine opening _ =>
      { procedures := [⟨undocumented .procedure opening.name opening.display ⟨path, number⟩ [],
        .prototype⟩] }
  | .prototypeBlock opening _ parameters _ =>
      { procedures := [⟨undocumented .procedure opening.name opening.display ⟨path, number⟩
        (parametersOf path (number + 1) 0 parameters), .prototype⟩] }
  | .subroutine opening _ _ => { subroutines := [subroutineRecord path number opening] }
  | .procedure opening lines interface body _ =>
      bodyRecords path (number + 1 + (preamble lines interface).length) body ++
        { procedures := [procedureRecord path number opening lines interface] }

/-- What the blocks of a file declare, block by block. -/
def blockRecords (path : String) : Nat → List Block → Records
  | _, [] => {}
  | number, block :: rest =>
      block.records path number ++ blockRecords path (number + block.lines.length) rest

end RpgSymbols
