import RpgSymbols.Proofs.Attempt.Slots
import RpgSymbols.Proofs.Source.DocumentationParts

/-!
Assembling with every access written out. Words and upper-case words are separate lists that are
read by their places, procedures are stored in numbered slots, and every record is checked. None of
this goes wrong: on every line the attempt succeeds, and it leads where the assembler goes.
-/

namespace RpgSymbols

open Text

structure SlotAssembler where
  docs : DocumentationTracker := {}
  current : Option Draft := none
  suspended : Option ProcedureDraft := none
  constants : List Declaration := []
  standalones : List Declaration := []
  structures : List Declaration := []
  procedures : SlotIndex := {}
  subroutines : List Declaration := []

def Assembler.slotted (state : Assembler) : SlotAssembler :=
  ⟨state.docs, state.current, state.suspended, state.constants, state.standalones,
    state.structures, state.procedures.slotted, state.subroutines⟩

/-- A trimmed line as the words of its statement, in upper case and as they are written. -/
def Attempt.tokens (line : String) : Attempt (List String × List String) := do
  let statement ← Attempt.item (split ';' line) 0
  return ((words statement).map upper, words statement)

def Attempt.parameterDescription (docs : Documentation) (ordinal : Nat) : Attempt String :=
  if docs.parameterTags.length ≤ ordinal then .ok ""
  else do
    let tag ← Attempt.item docs.parameterTags ordinal
    return Documentation.parameterText tag.content

/-- Takes in a comment; one without a tag continues the last tag. -/
def Attempt.feedComment (tracker : DocumentationTracker) (comment : String) :
    Attempt DocumentationTracker :=
  let content := trim comment
  match content.toList with
  | [] => .ok tracker
  | '@' :: rest =>
      .ok { tracker with tags := tracker.tags ++ [DocumentationTracker.tagOf (String.ofList rest)] }
  | _ =>
      if !tracker.tags.isEmpty then do
        let last ← Attempt.lastItem tracker.tags
        let continued := { last with content := trim (last.content ++ " " ++ content) }
        return { tracker with tags := tracker.tags.dropLast ++ [continued] }
      else if tracker.title.isNone then .ok { tracker with title := some content }
      else .ok { tracker with description := tracker.description ++ [content] }

def Attempt.appendParameter (draft : ProcedureDraft) (tokens display : List String)
    (position : Position) : Attempt ProcedureDraft := do
  let ordinal := draft.parameters.length
  let word ← Attempt.item tokens 0
  let name ←
    if word = anonymousWord then .ok ("parm" ++ Number.natText (ordinal + 1))
    else Attempt.item display 0
  let description ← Attempt.parameterDescription draft.heading.docs ordinal
  let parameter ← Attempt.checked {
    kind := .subitem
    name := name
    keywords := tokens.drop 1
    displayKeywords := display.drop 1
    description := description
    position := some position }
  return { draft with parameters := draft.parameters ++ [parameter] }

def Attempt.addParameter (draft : ProcedureDraft) (tokens display : List String)
    (position : Position) : Attempt ProcedureDraft := do
  let first ← Attempt.item tokens 0
  let skipped := if startsWith first "DCL-" then 1 else 0
  if (tokens.drop skipped).isEmpty then return draft
  Attempt.appendParameter draft (tokens.drop skipped) (display.drop skipped) position

namespace SlotAssembler

def consumeDocs (state : SlotAssembler) : SlotAssembler := { state with docs := state.docs.reset }

def heading (state : SlotAssembler) (tokens display : List String) (position : Position) :
    Attempt Heading := do
  let name ← Attempt.item display 1
  return ⟨name, display.drop 2, tokens.drop 2, state.docs.snapshot, position⟩

def openDraft (state : SlotAssembler) (draft : Draft) : SlotAssembler :=
  { state with current := some draft }

def store (state : SlotAssembler) : Attempt SlotAssembler :=
  match state.current with
  | none => .ok state
  | some (.dataStructure heading) => do
      let finished ← Attempt.checked (heading.declare .dataStructure [])
      return { state with structures := state.structures ++ [finished] }
  | some (.procedure draft) => do
      let finished ← Attempt.checked draft.finish
      let procedures ← state.procedures.add finished draft.form
      return { state with procedures := procedures }
  | some (.subroutine heading) => do
      let finished ← Attempt.checked (heading.declare .subroutine [])
      return { state with subroutines := state.subroutines ++ [finished] }

def finalize (state : SlotAssembler) : Attempt SlotAssembler := do
  let stored ← state.store
  return consumeDocs { stored with current := none }

section Handlers

variable (state : SlotAssembler) (tokens display : List String) (position : Position)

def onConstant : Attempt SlotAssembler :=
  if state.current.isSome || tokens.length < 2 then .ok state
  else do
    let heading ← state.heading tokens display position
    let declaration ← Attempt.checked (heading.declare .constant [])
    return consumeDocs { state with constants := state.constants ++ [declaration] }

def onStandalone : Attempt SlotAssembler :=
  if state.current.isSome || tokens.length < 2 then .ok state
  else if (tokens.drop 2).contains templateKeyword then .ok state.consumeDocs
  else do
    let heading ← state.heading tokens display position
    let declaration ← Attempt.checked (heading.declare .standalone [])
    return consumeDocs { state with standalones := state.standalones ++ [declaration] }

def onOpenStructure : Attempt SlotAssembler :=
  if state.current.isSome || tokens.length < 2 then .ok state
  else if (tokens.drop 2).contains templateKeyword then .ok state.consumeDocs
  else do
    let heading ← state.heading tokens display position
    let opened := state.openDraft (.dataStructure heading)
    if endsOnItsLine "DCL-DS" (tokens.drop 2) then opened.finalize else return opened

def onCloseStructure : Attempt SlotAssembler :=
  match state.current with
  | some (.dataStructure _) => state.finalize
  | _ => .ok state

def onOpenPrototype : Attempt SlotAssembler :=
  if state.current.isSome || tokens.length < 2 then .ok state
  else do
    let name ← Attempt.item tokens 1
    if state.procedures.contains name then return state
    let heading ← state.heading tokens display position
    let opened := state.openDraft (.procedure ⟨heading, .prototype, true, []⟩)
    if endsOnItsLine "DCL-PR" (tokens.drop 2) then opened.finalize else return opened

def onOpenProcedure : Attempt SlotAssembler :=
  if tokens.length < 2 then .ok state
  else do
    let heading ← state.heading tokens display position
    return openDraft { state with suspended := none } (.procedure ⟨heading, .definition, false, []⟩)

def onOpenInterface : Attempt SlotAssembler :=
  match state.current with
  | some (.procedure draft) => do
      let words ← Attempt.inStep (tokens.drop 2) (display.drop 2)
      let kept := words.filter fun word => word.1 != "END-PI"
      return state.openDraft (.procedure { draft with
        heading := { draft.heading with
          displayKeywords := kept.map Prod.snd, keywords := kept.map Prod.fst }
        reading := !endsOnItsLine "DCL-PI" (tokens.drop 2) })
  | _ => .ok state

def onCloseInterface : Attempt SlotAssembler :=
  match state.current with
  | some (.procedure draft) => .ok (state.openDraft (.procedure { draft with reading := false }))
  | _ => .ok state

def onCloseProcedure : Attempt SlotAssembler :=
  match state.current with
  | some (.procedure _) => state.finalize
  | _ => .ok state

def onOpenSubroutine : Attempt SlotAssembler :=
  if tokens.length < 2 then .ok state
  else do
    let name ← Attempt.item tokens 1
    if state.subroutines.any fun known => known.isNamed name then return state
    let suspended :=
      match state.current with
      | some (.procedure draft) => some draft
      | _ => state.suspended
    let heading ← state.heading (tokens.take 2) (display.take 2) position
    return openDraft { state with suspended := suspended } (.subroutine heading)

def onCloseSubroutine : Attempt SlotAssembler :=
  match state.current with
  | some (.subroutine _) => do
      let finished ← state.finalize
      match finished.suspended with
      | none => return finished
      | some draft =>
          return { finished with current := some (.procedure draft), suspended := none }
  | _ => .ok state

def onComment (text : String) : Attempt SlotAssembler :=
  if state.docs.active then do
    let docs ← Attempt.feedComment state.docs text
    return { state with docs := docs }
  else .ok state

def onParameter : Attempt SlotAssembler :=
  match state.current with
  | some (.procedure draft) =>
      if draft.reading then do
        let first ← Attempt.item tokens 0
        if startsWith first "/" then return state
        let longer ← Attempt.addParameter draft tokens display position
        return state.openDraft (.procedure longer)
      else .ok state
  | _ => .ok state

def onOther (line : String) : Attempt SlotAssembler :=
  if startsWith line "//" then state.onComment (String.ofList (line.toList.drop 2))
  else state.onParameter tokens display position

def perform (operation : Operation) : Attempt SlotAssembler :=
  match operation with
  | .docMarker => .ok { state with docs := state.docs.toggle }
  | .constant => state.onConstant tokens display position
  | .standalone => state.onStandalone tokens display position
  | .openStructure => state.onOpenStructure tokens display position
  | .closeStructure => state.onCloseStructure
  | .openPrototype => state.onOpenPrototype tokens display position
  | .closePrototype => state.onCloseProcedure
  | .openProcedure => state.onOpenProcedure tokens display position
  | .openInterface => state.onOpenInterface tokens display
  | .closeInterface => state.onCloseInterface
  | .closeProcedure => state.onCloseProcedure
  | .openSubroutine => state.onOpenSubroutine tokens display position
  | .closeSubroutine => state.onCloseSubroutine

end Handlers

def feedLine (state : SlotAssembler) (position : Position) (raw : String) :
    Attempt SlotAssembler := do
  let line := trim raw
  if line.isEmpty then return state
  let (tokens, display) ← Attempt.tokens line
  if tokens.isEmpty then return state
  let first ← Attempt.item tokens 0
  match Operation.ofWord? first with
  | some operation => state.perform tokens display position operation
  | none => state.onOther tokens display position line

def feedLines (path : String) : SlotAssembler → Nat → List String → Attempt SlotAssembler
  | state, _, [] => .ok state
  | state, number, line :: rest => do
      let next ← state.feedLine ⟨path, number⟩ line
      feedLines path next (number + 1) rest

def feedFile (state : SlotAssembler) (path : String) (lines : List String) :
    Attempt SlotAssembler :=
  feedLines path { state with docs := {}, current := none, suspended := none } 0 lines

def feedFiles (state : SlotAssembler) : List (String × List String) → Attempt SlotAssembler
  | [] => .ok state
  | file :: rest => do
      let next ← state.feedFile file.1 file.2
      next.feedFiles rest

def finish (state : SlotAssembler) : Model :=
  ⟨state.constants, state.standalones, state.structures, state.procedures.items,
    state.subroutines⟩

end SlotAssembler

def Attempt.assemble (files : List (String × List String)) : Attempt Model := do
  let state ← SlotAssembler.feedFiles {} files
  return state.finish

/-! The attempts succeed, and go where the assembler goes. -/

theorem first_piece (cut : Char → Bool) (chars : List Char) :
    (pieces cut chars)[0]? = some (chars.takeWhile fun c => !cut c) := by
  induction chars with
  | nil => rfl
  | cons c rest induction =>
      rw [pieces]
      by_cases cuts : cut c = true
      · simp [cuts]
      · cases others : pieces cut rest with
        | nil => simp [others] at induction
        | cons piece more =>
            rw [others, List.getElem?_cons_zero, Option.some.injEq] at induction
            simp [cuts, induction]

namespace Attempt

theorem tokens_of_line (line : String) :
    tokens line = .ok ((displayWords line).map upper, displayWords line) := by
  have statement : item (split ';' line) 0 = .ok (before ';' line) := by
    apply item_of_get
    rw [split, List.getElem?_map, first_piece, Option.map_some]
    rfl
  rw [tokens, statement]
  rfl

theorem parameter_description_found (docs : Documentation) (ordinal : Nat) :
    parameterDescription docs ordinal = .ok (docs.parameterDescription ordinal) := by
  rw [parameterDescription, Documentation.parameterDescription]
  by_cases beyond : docs.parameterTags.length ≤ ordinal
  · rw [if_pos beyond, List.getElem?_eq_none beyond]
  · have found := List.getElem?_eq_getElem (Nat.lt_of_not_le beyond)
    rw [if_neg beyond, item_of_get found, found]
    rfl

theorem comment_fed (tracker : DocumentationTracker) (comment : String) :
    feedComment tracker comment = .ok (tracker.feed comment) := by
  unfold feedComment DocumentationTracker.feed
  dsimp only
  generalize trim comment = content
  generalize content.toList = letters
  split
  · rfl
  · rfl
  · rcases List.eq_nil_or_concat tracker.tags with none | ⟨before, last, tagged⟩
    · rw [none]
      simp only [List.isEmpty_nil, Bool.not_true, Bool.false_eq_true, if_false]
      split <;> rfl
    · have found : lastItem tracker.tags = .ok last := by
        apply last_of_get
        rw [tagged, List.concat_eq_append, List.getLast?_concat]
      rw [found, tagged, List.concat_eq_append, DocumentationTracker.continue_last_concat]
      simp

theorem parameter_appended (draft : ProcedureDraft) (first : String) (others : List String)
    (position : Position) :
    appendParameter draft ((first :: others).map upper) (first :: others) position =
      .ok (draft.addParameter (first :: others) position) := by
  unfold appendParameter ProcedureDraft.addParameter ProcedureDraft.parameter?
  simp only [List.map_cons, item_head, bind_ok, parameter_description_found]
  by_cases anonymous : upper first = anonymousWord
  · simp [anonymous, checked]
  · simp [anonymous, checked]

theorem parameter_added (draft : ProcedureDraft) (first : String) (others : List String)
    (position : Position) :
    addParameter draft ((first :: others).map upper) (first :: others) position =
      .ok (draft.addParameter (ProcedureDraft.parameterWords first others) position) := by
  unfold addParameter ProcedureDraft.parameterWords
  rw [List.map_cons, item_head, bind_ok]
  by_cases leading : startsWith (upper first) "DCL-" = true
  · rw [if_pos leading, if_pos leading]
    cases others with
    | nil => simp [ProcedureDraft.addParameter, ProcedureDraft.parameter?]
    | cons second others => exact parameter_appended draft second others position
  · rw [if_neg leading, if_neg leading]
    exact parameter_appended draft first others position

end Attempt

namespace Assembler

theorem heading_slotted (state : Assembler) (first name : String) (display : List String)
    (position : Position) :
    state.slotted.heading ((first :: name :: display).map upper) (first :: name :: display)
      position = .ok (Heading.of name display state.docs.snapshot position) := rfl

theorem finalize_slotted {state : Assembler} (distinct : state.procedures.keys.Nodup) :
    state.slotted.finalize = .ok state.finalize.slotted := by
  unfold SlotAssembler.finalize SlotAssembler.store finalize
  cases opened : state.current with
  | none => simp [slotted, opened, consumeDocs, SlotAssembler.consumeDocs]
  | some draft =>
      cases draft with
      | dataStructure heading =>
          simp [slotted, opened, consumeDocs, SlotAssembler.consumeDocs]
      | procedure draft =>
          have stored := ProcedureIndex.add_slotted distinct draft.finish draft.form
          simp [slotted, opened, stored, consumeDocs, SlotAssembler.consumeDocs]
      | subroutine heading =>
          simp [slotted, opened, consumeDocs, SlotAssembler.consumeDocs]

theorem finalize_opened {state : Assembler} (distinct : state.procedures.keys.Nodup)
    (draft : Draft) :
    (state.slotted.openDraft draft).finalize = .ok (state.openDraft draft).finalize.slotted :=
  @finalize_slotted (state.openDraft draft) distinct

section Handlers

variable {state : Assembler} (distinct : state.procedures.keys.Nodup) (first : String)
  (others : List String) (position : Position)

theorem current_slotted (state : Assembler) : state.slotted.current = state.current := rfl

theorem docs_slotted (state : Assembler) : state.slotted.docs = state.docs := rfl

theorem procedures_slotted (state : Assembler) :
    state.slotted.procedures = state.procedures.slotted := rfl

theorem subroutines_slotted (state : Assembler) :
    state.slotted.subroutines = state.subroutines := rfl

theorem words_behind (name : String) (display : List String) :
    ((first :: name :: display).map upper).drop 2 = display.map upper := by
  rw [List.map_cons, List.map_cons, List.drop_succ_cons, List.drop_succ_cons, List.drop_zero]

theorem words_enough (name : String) (display : List String) :
    ¬ ((first :: name :: display).map upper).length < 2 := by
  simp

theorem words_of (name : String) (display : List String) (docs : Documentation) :
    (Heading.of name display docs position).keywords = display.map upper := by
  rw [Heading.of]

theorem constant_slotted :
    state.slotted.onConstant ((first :: others).map upper) (first :: others) position =
      .ok (state.onConstant others position).slotted := by
  unfold SlotAssembler.onConstant onConstant
  cases opened : state.current with
  | some draft => simp [slotted, opened]
  | none =>
      cases others with
      | nil => simp [slotted, opened]
      | cons name display =>
          rw [heading_slotted]
          simp [slotted, opened, consumeDocs, SlotAssembler.consumeDocs]

theorem standalone_slotted :
    state.slotted.onStandalone ((first :: others).map upper) (first :: others) position =
      .ok (state.onStandalone others position).slotted := by
  unfold SlotAssembler.onStandalone onStandalone
  cases opened : state.current with
  | some draft => simp [slotted, opened]
  | none =>
      cases others with
      | nil => simp [slotted, opened]
      | cons name display =>
          simp only [current_slotted, opened, Option.isSome_none, words_enough, heading_slotted,
            words_behind, words_of, decide_false, Bool.or_false, Bool.false_eq_true, if_false]
          by_cases pattern : (display.map upper).contains templateKeyword = true
          · rw [if_pos pattern, if_pos pattern]
            rfl
          · rw [if_neg pattern, if_neg pattern]
            rfl

include distinct in
theorem open_structure_slotted :
    state.slotted.onOpenStructure ((first :: others).map upper) (first :: others) position =
      .ok (state.onOpenStructure others position).slotted := by
  unfold SlotAssembler.onOpenStructure onOpenStructure
  cases opened : state.current with
  | some draft => simp [slotted, opened]
  | none =>
      cases others with
      | nil => simp [slotted, opened]
      | cons name display =>
          simp only [current_slotted, opened, Option.isSome_none, words_enough, heading_slotted,
            words_behind, words_of, decide_false, Bool.or_false, Bool.false_eq_true, if_false]
          by_cases pattern : (display.map upper).contains templateKeyword = true
          · rw [if_pos pattern, if_pos pattern]
            rfl
          · rw [if_neg pattern, if_neg pattern, Attempt.bind_ok]
            by_cases ends : endsOnItsLine "DCL-DS" (display.map upper) = true
            · rw [if_pos ends, if_pos ends]
              exact finalize_opened distinct _
            · rw [if_neg ends, if_neg ends]
              rfl

include distinct in
theorem close_structure_slotted :
    state.slotted.onCloseStructure = .ok state.onCloseStructure.slotted := by
  unfold SlotAssembler.onCloseStructure onCloseStructure
  rw [current_slotted]
  generalize state.current = current
  rcases current with _ | heading | draft | heading
  · rfl
  · exact finalize_slotted distinct
  · rfl
  · rfl

include distinct in
theorem open_prototype_slotted :
    state.slotted.onOpenPrototype ((first :: others).map upper) (first :: others) position =
      .ok (state.onOpenPrototype others position).slotted := by
  unfold SlotAssembler.onOpenPrototype onOpenPrototype
  cases opened : state.current with
  | some draft => simp [slotted, opened]
  | none =>
      cases others with
      | nil => simp [slotted, opened]
      | cons name display =>
          have named : Attempt.item ((first :: name :: display).map upper) 1 = .ok (upper name) :=
            rfl
          have known := ProcedureIndex.contains_slotted state.procedures (upper name)
          simp only [current_slotted, opened, Option.isSome_none, words_enough, heading_slotted,
            words_behind, words_of, named, decide_false, Bool.or_false, Bool.false_eq_true,
            if_false, Attempt.bind_ok, procedures_slotted, known]
          by_cases stored : state.procedures.contains (upper name) = true
          · rw [if_pos stored, if_pos stored]
            rfl
          · rw [if_neg stored, if_neg stored]
            by_cases ends : endsOnItsLine "DCL-PR" (display.map upper) = true
            · rw [if_pos ends, if_pos ends]
              exact finalize_opened distinct _
            · rw [if_neg ends, if_neg ends]
              rfl

theorem open_procedure_slotted :
    state.slotted.onOpenProcedure ((first :: others).map upper) (first :: others) position =
      .ok (state.onOpenProcedure others position).slotted := by
  unfold SlotAssembler.onOpenProcedure onOpenProcedure
  cases others with
  | nil => rfl
  | cons name display =>
      rw [if_neg (words_enough first name display), heading_slotted]
      rfl

theorem kept_words (display : List String) :
    ((display.map upper).zip display).filter (fun word => word.1 != "END-PI") =
      (display.filter fun word => upper word != "END-PI").map fun word => (upper word, word) := by
  induction display with
  | nil => rfl
  | cons word rest induction =>
      rw [List.map_cons, List.zip_cons_cons, List.filter_cons, List.filter_cons, induction]
      split <;> rfl

theorem open_interface_slotted :
    state.slotted.onOpenInterface ((first :: others).map upper) (first :: others) =
      .ok (state.onOpenInterface others).slotted := by
  have behind : ((first :: others).map upper).drop 2 = (others.drop 1).map upper := by
    rw [List.map_cons, List.drop_succ_cons, List.map_drop]
  have paired : Attempt.inStep ((others.drop 1).map upper) ((first :: others).drop 2) =
      .ok (((others.drop 1).map upper).zip (others.drop 1)) := by
    rw [Attempt.inStep, if_pos (by simp), List.drop_succ_cons]
  unfold SlotAssembler.onOpenInterface onOpenInterface
  rw [current_slotted]
  generalize state.current = current
  rcases current with _ | heading | draft | heading
  · rfl
  · rfl
  · simp only [paired, Attempt.bind_ok, kept_words, behind, List.map_map]
    simp only [Function.comp_def, List.map_id_fun']
    rfl
  · rfl

theorem close_interface_slotted :
    state.slotted.onCloseInterface = .ok state.onCloseInterface.slotted := by
  unfold SlotAssembler.onCloseInterface onCloseInterface
  rw [current_slotted]
  generalize state.current = current
  rcases current with _ | heading | draft | heading
  · rfl
  · rfl
  · rfl
  · rfl

include distinct in
theorem close_procedure_slotted :
    state.slotted.onCloseProcedure = .ok state.onCloseProcedure.slotted := by
  unfold SlotAssembler.onCloseProcedure onCloseProcedure
  rw [current_slotted]
  generalize state.current = current
  rcases current with _ | heading | draft | heading
  · rfl
  · rfl
  · exact finalize_slotted distinct
  · rfl

theorem open_subroutine_slotted :
    state.slotted.onOpenSubroutine ((first :: others).map upper) (first :: others) position =
      .ok (state.onOpenSubroutine others position).slotted := by
  unfold SlotAssembler.onOpenSubroutine onOpenSubroutine
  cases others with
  | nil => rfl
  | cons name display =>
      have named : Attempt.item ((first :: name :: display).map upper) 1 = .ok (upper name) := rfl
      rw [if_neg (words_enough first name display), named, Attempt.bind_ok, subroutines_slotted]
      dsimp only
      by_cases known : (state.subroutines.any fun known => known.isNamed (upper name)) = true
      · rw [if_pos known, if_pos known]
        rfl
      · rw [if_neg known, if_neg known, current_slotted]
        rfl

include distinct in
theorem close_subroutine_slotted :
    state.slotted.onCloseSubroutine = .ok state.onCloseSubroutine.slotted := by
  unfold SlotAssembler.onCloseSubroutine onCloseSubroutine
  rw [current_slotted]
  generalize state.current = current
  rcases current with _ | heading | draft | heading
  · rfl
  · rfl
  · rfl
  · rw [finalize_slotted distinct, Attempt.bind_ok]
    generalize state.finalize = finished
    cases finished with
    | mk docs current suspended constants standalones structures procedures subroutines =>
        cases suspended with
        | none => rfl
        | some draft => rfl

include distinct in
theorem perform_slotted (operation : Operation) :
    state.slotted.perform ((first :: others).map upper) (first :: others) position operation =
      .ok (state.perform operation others position).slotted := by
  cases operation with
  | docMarker => rfl
  | constant => exact constant_slotted first others position
  | standalone => exact standalone_slotted first others position
  | openStructure => exact open_structure_slotted distinct first others position
  | closeStructure => exact close_structure_slotted distinct
  | openPrototype => exact open_prototype_slotted distinct first others position
  | closePrototype => exact close_procedure_slotted distinct
  | openProcedure => exact open_procedure_slotted first others position
  | openInterface => exact open_interface_slotted first others
  | closeInterface => exact close_interface_slotted
  | closeProcedure => exact close_procedure_slotted distinct
  | openSubroutine => exact open_subroutine_slotted first others position
  | closeSubroutine => exact close_subroutine_slotted distinct

theorem starts_with_marker (line : String) :
    startsWith line "//" = (afterMarker? line.toList).isSome := by
  rcases after_marker_cases line.toList with ⟨text, spelled, marked⟩ | ⟨plain, unmarked⟩
  · rw [marked, startsWith, spelled]
    rfl
  · rw [unmarked, Option.isSome_none, Bool.eq_false_iff]
    intro starts
    obtain ⟨text, spelled⟩ := List.isPrefixOf_iff_prefix.mp starts
    exact plain text spelled.symm

theorem comment_slotted (text : String) :
    state.slotted.onComment text =
      .ok (if state.docs.active then { state with docs := state.docs.feed text }
        else state).slotted := by
  unfold SlotAssembler.onComment
  rw [docs_slotted, Attempt.comment_fed]
  generalize state.docs.feed text = fed
  split
  · rfl
  · rfl

theorem parameter_slotted :
    state.slotted.onParameter ((first :: others).map upper) (first :: others) position =
      .ok (match state.current with
        | some (.procedure draft) =>
            if draft.reading && !startsWith (upper first) "/" then
              let words := ProcedureDraft.parameterWords first others
              { state with current := some (.procedure (draft.addParameter words position)) }
            else state
        | _ => state).slotted := by
  unfold SlotAssembler.onParameter
  rw [current_slotted]
  rcases opened : state.current with _ | heading | draft | heading
  · rfl
  · rfl
  · simp only [Attempt.parameter_added, Attempt.bind_ok]
    rw [List.map_cons, Attempt.item_head, Attempt.bind_ok]
    cases draft.reading with
    | false => rfl
    | true =>
        cases startsWith (upper first) "/" with
        | false => rfl
        | true => rfl
  · rfl

theorem other_slotted (line : String) :
    state.slotted.onOther ((first :: others).map upper) (first :: others) position line =
      .ok (state.onOther ⟨line, first, others⟩ position).slotted := by
  unfold SlotAssembler.onOther onOther
  rw [starts_with_marker]
  rcases after_marker_cases line.toList with ⟨text, spelled, marked⟩ | ⟨plain, unmarked⟩
  · rw [marked, spelled]
    exact comment_slotted (String.ofList text)
  · rw [unmarked, if_neg (by simp)]
    split
    · rename_i comment spelled
      exact absurd spelled (plain comment)
    · exact parameter_slotted first others position

end Handlers

theorem feed_line_slotted {state : Assembler} (distinct : state.procedures.keys.Nodup)
    (position : Position) (raw : String) :
    state.slotted.feedLine position raw = .ok (state.feedLine position raw).slotted := by
  unfold SlotAssembler.feedLine feedLine Statement.ofLine?
  dsimp only
  generalize trim raw = line
  by_cases empty : line.isEmpty = true
  · have wordless : displayWords line = [] := by
      rw [String.isEmpty_iff.mp empty]
      decide
    rw [if_pos empty, wordless]
    rfl
  · rw [if_neg empty, Attempt.tokens_of_line, Attempt.bind_ok]
    cases displayWords line with
    | nil => rfl
    | cons first others =>
        have operated (operation : Operation) :=
          perform_slotted distinct first others position operation
        have unnamed := @other_slotted state first others position line
        simp only [List.map_cons, List.isEmpty_cons, Bool.false_eq_true, if_false,
          Attempt.item_head, Attempt.bind_ok, step, Statement.operation?]
        cases Operation.ofWord? (upper first) with
        | none => exact unnamed
        | some operation => exact operated operation

theorem feed_lines_slotted {state : Assembler} (consistent : Consistent state) (path : String)
    (number : Nat) (lines : List String) :
    SlotAssembler.feedLines path state.slotted number lines =
      .ok (feedLines path state number lines).slotted := by
  induction lines generalizing state number with
  | nil => rfl
  | cons line rest induction =>
      have next := consistent_effect (feed_line_effect state ⟨path, number⟩ line) consistent
      rw [SlotAssembler.feedLines, feed_line_slotted consistent.distinct, Attempt.bind_ok,
        induction next, feed_lines_cons]

theorem consistent_feed_file {state : Assembler} (consistent : Consistent state) (path : String)
    (lines : List String) : Consistent (state.feedFile path lines) := by
  have step (now : Assembler) (position : Position) (raw : String) (fits : Consistent now) :=
    consistent_effect (feed_line_effect now position raw) fits
  exact feed_lines_keeps step path _ 0 lines (consistent_begin_file state consistent)

theorem feed_files_slotted {state : Assembler} (consistent : Consistent state)
    (files : List (String × List String)) :
    state.slotted.feedFiles files = .ok (state.feedFiles files).slotted := by
  induction files generalizing state with
  | nil => rfl
  | cons file rest induction =>
      have begun := consistent_begin_file state consistent
      have fed : state.slotted.feedFile file.1 file.2 =
          .ok (state.feedFile file.1 file.2).slotted :=
        feed_lines_slotted begun file.1 0 file.2
      rw [SlotAssembler.feedFiles, fed, Attempt.bind_ok,
        induction (consistent_feed_file consistent file.1 file.2)]
      rfl

end Assembler

/-- Assembling never fails. -/
theorem Attempt.assemble_ok (files : List (String × List String)) :
    Attempt.assemble files = .ok (RpgSymbols.assemble files) := by
  have fed := Assembler.feed_files_slotted (Assembler.consistent_feed_all []) files
  rw [Attempt.assemble]
  exact congrArg (fun state => state >>= fun state => pure state.finish) fed

end RpgSymbols
