import RpgSymbols.Source.Draft
import RpgSymbols.Source.Statement
import RpgSymbols.Symbol.Model

/-!
The assembler reads source line by line and gathers declarations. At most one declaration is open
at a time; a subroutine inside a procedure suspends the procedure until it ends. Nothing that is
malformed is an error: a declaration that is not completed is not gathered.
-/

namespace RpgSymbols

open Text

/-- Everything that a later line depends on. -/
structure Assembler where
  docs : DocumentationTracker := {}
  current : Option Draft := none
  suspended : Option ProcedureDraft := none
  constants : List Declaration := []
  standalones : List Declaration := []
  structures : List Declaration := []
  procedures : ProcedureIndex := {}
  subroutines : List Declaration := []
  deriving Repr

namespace Assembler

def consumeDocs (state : Assembler) : Assembler := { state with docs := state.docs.reset }

def openDraft (state : Assembler) (draft : Draft) : Assembler :=
  { state with current := some draft }

def finalize (state : Assembler) : Assembler :=
  let stored : Assembler :=
    match state.current with
    | none => state
    | some (.dataStructure heading) =>
        { state with structures := state.structures ++ [heading.declare .dataStructure []] }
    | some (.procedure draft) =>
        { state with procedures := state.procedures.add draft.finish draft.form }
    | some (.subroutine heading) =>
        { state with subroutines := state.subroutines ++ [heading.declare .subroutine []] }
  consumeDocs { stored with current := none }

def onConstant (state : Assembler) (others : List String) (position : Position) : Assembler :=
  match state.current, others with
  | none, name :: display =>
      let heading := Heading.of name display state.docs.snapshot position
      consumeDocs { state with constants := state.constants ++ [heading.declare .constant []] }
  | _, _ => state

/-- A variable; templates are passed over, and take their documentation with them. -/
def onStandalone (state : Assembler) (others : List String) (position : Position) : Assembler :=
  match state.current, others with
  | none, name :: display =>
      let heading := Heading.of name display state.docs.snapshot position
      if heading.keywords.contains templateKeyword then consumeDocs state
      else consumeDocs { state with
        standalones := state.standalones ++ [heading.declare .standalone []] }
  | _, _ => state

def onOpenStructure (state : Assembler) (others : List String) (position : Position) :
    Assembler :=
  match state.current, others with
  | none, name :: display =>
      let heading := Heading.of name display state.docs.snapshot position
      if heading.keywords.contains templateKeyword then consumeDocs state
      else
        let opened := state.openDraft (.dataStructure heading)
        if endsOnItsLine "DCL-DS" heading.keywords then opened.finalize else opened
  | _, _ => state

def onCloseStructure (state : Assembler) : Assembler :=
  match state.current with
  | some (.dataStructure _) => state.finalize
  | _ => state

/-- The beginning of a prototype, or a whole one; a procedure that is already known has no use for
one. -/
def onOpenPrototype (state : Assembler) (others : List String) (position : Position) :
    Assembler :=
  match state.current, others with
  | none, name :: display =>
      if state.procedures.contains (upper name) then state
      else
        let heading := Heading.of name display state.docs.snapshot position
        let opened := state.openDraft (.procedure ⟨heading, .prototype, true, []⟩)
        if endsOnItsLine "DCL-PR" heading.keywords then opened.finalize else opened
  | _, _ => state

/-- The beginning of a procedure's body. Whatever is open is dropped. -/
def onOpenProcedure (state : Assembler) (others : List String) (position : Position) :
    Assembler :=
  match others with
  | [] => state
  | name :: display =>
      let heading := Heading.of name display state.docs.snapshot position
      openDraft { state with suspended := none } (.procedure ⟨heading, .definition, false, []⟩)

def onOpenInterface (state : Assembler) (others : List String) : Assembler :=
  match state.current with
  | some (.procedure draft) =>
      let display := others.drop 1
      let oneLine := endsOnItsLine "DCL-PI" (display.map upper)
      { state with current := some (.procedure (draft.beginInterface display oneLine)) }
  | _ => state

def onCloseInterface (state : Assembler) : Assembler :=
  match state.current with
  | some (.procedure draft) =>
      { state with current := some (.procedure { draft with reading := false }) }
  | _ => state

/-- The end of a prototype or of a procedure's body. -/
def onCloseProcedure (state : Assembler) : Assembler :=
  match state.current with
  | some (.procedure _) => state.finalize
  | _ => state

/-- The beginning of a subroutine; one that is already known is passed over. -/
def onOpenSubroutine (state : Assembler) (others : List String) (position : Position) :
    Assembler :=
  match others with
  | [] => state
  | name :: _ =>
      if state.subroutines.any fun known => known.isNamed (upper name) then state
      else
        let suspended :=
          match state.current with
          | some (.procedure draft) => some draft
          | _ => state.suspended
        let heading := Heading.of name [] state.docs.snapshot position
        openDraft { state with suspended := suspended } (.subroutine heading)

/-- The end of a subroutine; the procedure it suspended is open again. -/
def onCloseSubroutine (state : Assembler) : Assembler :=
  match state.current with
  | some (.subroutine _) =>
      let finished := state.finalize
      match finished.suspended with
      | none => finished
      | some draft => { finished with current := some (.procedure draft), suspended := none }
  | _ => state

/-- Any other line: a comment of an open documentation block, or a parameter of an interface. A
compiler directive is neither. -/
def onOther (state : Assembler) (statement : Statement) (position : Position) : Assembler :=
  match statement.line.toList with
  | '/' :: '/' :: comment =>
      if state.docs.active then { state with docs := state.docs.feed (String.ofList comment) }
      else state
  | _ =>
      match state.current with
      | some (.procedure draft) =>
          if draft.reading && !startsWith (upper statement.first) "/" then
            let words := ProcedureDraft.parameterWords statement.first statement.others
            { state with current := some (.procedure (draft.addParameter words position)) }
          else state
      | _ => state

/-- The effect of an operation; `others` are the words after the one that names it. -/
def perform (state : Assembler) (operation : Operation) (others : List String)
    (position : Position) : Assembler :=
  match operation with
  | .docMarker => { state with docs := state.docs.toggle }
  | .constant => state.onConstant others position
  | .standalone => state.onStandalone others position
  | .openStructure => state.onOpenStructure others position
  | .closeStructure => state.onCloseStructure
  | .openPrototype => state.onOpenPrototype others position
  | .closePrototype => state.onCloseProcedure
  | .openProcedure => state.onOpenProcedure others position
  | .openInterface => state.onOpenInterface others
  | .closeInterface => state.onCloseInterface
  | .closeProcedure => state.onCloseProcedure
  | .openSubroutine => state.onOpenSubroutine others position
  | .closeSubroutine => state.onCloseSubroutine

def step (state : Assembler) (statement : Statement) (position : Position) : Assembler :=
  match statement.operation? with
  | some operation => state.perform operation statement.others position
  | none => state.onOther statement position

def feedLine (state : Assembler) (position : Position) (raw : String) : Assembler :=
  match Statement.ofLine? raw with
  | none => state
  | some statement => state.step statement position

/-- Open declarations and documentation end with the file they began in. -/
def beginFile (state : Assembler) : Assembler :=
  { state with docs := {}, current := none, suspended := none }

def feedLines (path : String) : Assembler → Nat → List String → Assembler
  | state, _, [] => state
  | state, number, line :: rest =>
      feedLines path (state.feedLine ⟨path, number⟩ line) (number + 1) rest

def feedFile (state : Assembler) (path : String) (lines : List String) : Assembler :=
  feedLines path state.beginFile 0 lines

/-- The model of what was gathered; declarations still open are left out. -/
def finish (state : Assembler) : Model where
  constants := state.constants
  standalones := state.standalones
  structures := state.structures
  procedures := state.procedures.toList
  subroutines := state.subroutines

end Assembler

def assemble (files : List (String × List String)) : Model :=
  (files.foldl (fun state file => state.feedFile file.1 file.2) ({} : Assembler)).finish

end RpgSymbols
