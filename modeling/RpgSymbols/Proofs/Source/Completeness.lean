import RpgSymbols.Proofs.Source.Blocks
import RpgSymbols.Proofs.Source.Effect

/-!
The assembler finds everything that well-formed source declares, and nothing else. Between blocks
nothing is open and no documentation is gathered, so the state there is settled by the records of
the blocks before. Each block leads from one such state to the next.
-/

namespace RpgSymbols

open Text

def Records.state (records : Records) : Assembler where
  constants := records.constants
  standalones := records.standalones
  structures := records.structures
  procedures := ProcedureIndex.merged records.procedures
  subroutines := firstNamed records.subroutines

namespace Assembler

/-- Inert lines have no effect: no documentation block is open, and no interface is being read. -/
structure Quiet (state : Assembler) : Prop where
  silent : state.docs.active = false
  closed : ∀ draft, state.current = some (.procedure draft) → draft.reading = false

theorem feed_inert {state : Assembler} (quiet : state.Quiet) (line : InertLine)
    (position : Position) : state.feedLine position line.raw = state := by
  cases worded : comment? line.raw with
  | some text =>
      rw [feed_line_of_comment line.inert worded, quiet.silent]
      rfl
  | none =>
      cases declares : parameterLine? line.raw with
      | none => exact feed_line_of_silence line.inert worded declares state position
      | some words =>
          rw [feed_line_of_parameter line.inert declares]
          split
          · rename_i draft opened
            rw [quiet.closed draft opened]
            rfl
          · rfl

theorem feed_inert_lines {state : Assembler} (quiet : state.Quiet) (path : String)
    (number : Nat) (lines : List InertLine) :
    feedLines path state number (lines.map InertLine.raw) = state := by
  induction lines generalizing number with
  | nil => rfl
  | cons line rest induction =>
      rw [List.map_cons, feed_lines_cons, feed_inert quiet, induction]

theorem feed_enclosed (path : String) (state : Assembler) (number : Nat) (opening : String)
    (lines : List String) (ending : String) :
    feedLines path state number (opening :: (lines ++ [ending])) =
      (feedLines path (state.feedLine ⟨path, number⟩ opening) (number + 1) lines).feedLine
        ⟨path, number + 1 + lines.length⟩ ending := by
  rw [feed_lines_cons, feed_lines_append, feed_lines_cons]
  rfl

theorem parameter_of_line {raw : String} {words : List String} {draft : ProcedureDraft}
    (declares : parameterLine? raw = some words) (plain : draft.heading.docs = {})
    (position : Position) :
    draft.parameter? words position = parameterOf? raw draft.parameters.length position := by
  unfold ProcedureDraft.parameter? parameterOf?
  rw [declares, plain]
  cases words with
  | nil => rfl
  | cons first display => rfl

theorem parameters_of_cons (path : String) (number ordinal : Nat) (line : InertLine)
    (rest : List InertLine) :
    parametersOf path number ordinal (line :: rest) =
      (parameterOf? line.raw ordinal ⟨path, number⟩).toList ++
        parametersOf path (number + 1)
          (ordinal + (parameterOf? line.raw ordinal ⟨path, number⟩).toList.length) rest := by
  delta parametersOf
  rfl

/-- An undocumented interface takes the parameter of an inert line, if the line has one. -/
theorem feed_parameter (base : Assembler) (silent : base.docs.active = false)
    (draft : ProcedureDraft) (reading : draft.reading = true) (plain : draft.heading.docs = {})
    (line : InertLine) (position : Position) :
    (base.openDraft (.procedure draft)).feedLine position line.raw =
      base.openDraft (.procedure { draft with
        parameters := draft.parameters ++
          (parameterOf? line.raw draft.parameters.length position).toList }) := by
  cases declares : parameterLine? line.raw with
  | some words =>
      rw [feed_line_of_parameter line.inert declares, ← parameter_of_line declares plain]
      exact if_pos reading
  | none =>
      have nothing : parameterOf? line.raw draft.parameters.length position = none := by
        unfold parameterOf?
        rw [declares]
      rw [nothing, Option.toList_none, List.append_nil]
      cases worded : comment? line.raw with
      | none => exact feed_line_of_silence line.inert worded declares _ position
      | some text =>
          rw [feed_line_of_comment line.inert worded]
          exact if_neg (ne_true_of_eq_false silent)

theorem feed_parameters (base : Assembler) (silent : base.docs.active = false)
    (draft : ProcedureDraft) (reading : draft.reading = true) (plain : draft.heading.docs = {})
    (path : String) (number : Nat) (lines : List InertLine) :
    feedLines path (base.openDraft (.procedure draft)) number (lines.map InertLine.raw) =
      base.openDraft (.procedure { draft with
        parameters := draft.parameters ++
          parametersOf path number draft.parameters.length lines }) := by
  induction lines generalizing draft number with
  | nil =>
      have empty : parametersOf path number draft.parameters.length [] = [] := rfl
      rw [empty, List.append_nil]
      rfl
  | cons line rest induction =>
      let declared := (parameterOf? line.raw draft.parameters.length ⟨path, number⟩).toList
      have behind := induction { draft with parameters := draft.parameters ++ declared } reading
        plain (number + 1)
      rw [List.map_cons, feed_lines_cons, feed_parameter base silent draft reading plain,
        parameters_of_cons, ← List.append_assoc, ← List.length_append]
      exact behind

end Assembler

namespace Records

theorem append_empty (records : Records) : records ++ ({} : Records) = records := by
  change Records.mk _ _ _ _ _ = records
  simp only [List.append_nil]

theorem append_assoc (first second third : Records) :
    first ++ second ++ third = first ++ (second ++ third) := by
  change Records.mk _ _ _ _ _ = Records.mk _ _ _ _ _
  simp only [Records.mk.injEq]
  exact ⟨List.append_assoc _ _ _, List.append_assoc _ _ _, List.append_assoc _ _ _,
    List.append_assoc _ _ _, List.append_assoc _ _ _⟩

theorem quiet_state (records : Records) : records.state.Quiet :=
  ⟨rfl, fun _ opened => nomatch opened⟩

/-! A declaration that is completed between blocks. -/

theorem state_constant (records : Records) (declared : Declaration) :
    (records ++ { constants := [declared] } : Records).state =
      { records.state with constants := records.state.constants ++ [declared] } := by
  change Records.state ⟨_, _, _, _, _⟩ = _
  simp only [List.append_nil]
  rfl

theorem state_standalone (records : Records) (declared : Declaration) :
    (records ++ { standalones := [declared] } : Records).state =
      { records.state with standalones := records.state.standalones ++ [declared] } := by
  change Records.state ⟨_, _, _, _, _⟩ = _
  simp only [List.append_nil]
  rfl

theorem finalize_structure (records : Records) (heading : Heading) :
    (records.state.openDraft (.dataStructure heading)).finalize =
      (records ++ { structures := [heading.declare .dataStructure []] } : Records).state := by
  change _ = Records.state ⟨_, _, _, _, _⟩
  simp only [List.append_nil]
  rfl

theorem finalize_procedure (records : Records) (draft : ProcedureDraft) :
    (records.state.openDraft (.procedure draft)).finalize =
      (records ++ { procedures := [⟨draft.finish, draft.form⟩] } : Records).state := by
  change _ = Records.state ⟨_, _, _, _, _⟩
  simp only [List.append_nil, Records.state, ProcedureIndex.merged_concat]
  rfl

theorem state_known_prototype (records : Records) (name : String) (display : List String)
    (position : Position) (parameters : List Declaration)
    (known : records.state.procedures.contains (upper name) = true) :
    (records ++ { procedures :=
      [⟨undocumented .procedure name display position parameters, .prototype⟩] } : Records).state =
      records.state := by
  have kept := ProcedureIndex.merged_known_prototype records.procedures
    (undocumented .procedure name display position parameters) known
  change Records.state ⟨_, _, _, _, _⟩ = _
  simp only [List.append_nil, Records.state, kept]

theorem state_known_subroutine (records : Records) (name : String) (position : Position)
    (known : (records.state.subroutines.any fun old => old.isNamed (upper name)) = true) :
    (records ++ { subroutines := [undocumented .subroutine name [] position []] } : Records).state =
      records.state := by
  have kept := first_named_known records.subroutines
    (undocumented .subroutine name [] position []) known
  change Records.state ⟨_, _, _, _, _⟩ = _
  simp only [List.append_nil, Records.state, kept]

theorem state_new_subroutine (records : Records) (name : String) (position : Position)
    (new : (records.state.subroutines.any fun old => old.isNamed (upper name)) = false) :
    (records ++ { subroutines := [undocumented .subroutine name [] position []] } : Records).state =
      { records.state with subroutines :=
        records.state.subroutines ++ [undocumented .subroutine name [] position []] } := by
  have grown := first_named_new records.subroutines
    (undocumented .subroutine name [] position []) new
  change Records.state ⟨_, _, _, _, _⟩ = _
  simp only [List.append_nil, Records.state, grown]

end Records

namespace Assembler

/-! Block by block. -/

section Blocks

variable (path : String) (number : Nat) (records : Records)

theorem feed_constant_block (line : NamedLine .constant) :
    feedLines path records.state number (Block.constant line).lines =
      (records ++ (Block.constant line).records path number).state := by
  rw [Block.lines, feed_lines_cons, feed_constant line.reads rfl, Block.records,
    Records.state_constant]
  rfl

theorem feed_standalone_block (line : NamedLine .standalone) :
    feedLines path records.state number (Block.standalone line).lines =
      (records ++ (Block.standalone line).records path number).state := by
  rw [Block.lines, feed_lines_cons]
  by_cases template : templateKeyword ∈ line.keywords
  · rw [feed_standalone_pattern line.reads rfl template, Block.records, if_pos template,
      Records.append_empty]
    rfl
  · rw [feed_standalone line.reads rfl template, Block.records, if_neg template,
      Records.state_standalone]
    rfl

theorem feed_structure_line_block (opening : NamedLine .openStructure)
    (ends : endsOnItsLine "DCL-DS" opening.keywords = true) :
    feedLines path records.state number (Block.structureLine opening ends).lines =
      (records ++ (Block.structureLine opening ends).records path number).state := by
  rw [Block.lines, feed_lines_cons]
  by_cases template : templateKeyword ∈ opening.keywords
  · rw [feed_structure_pattern opening.reads rfl template, Block.records, if_pos template,
      Records.append_empty]
    rfl
  · rw [feed_structure_line opening.reads rfl template ends, Block.records, if_neg template,
      Records.finalize_structure]
    rfl

theorem feed_structure_block (opening : NamedLine .openStructure)
    (lasts : endsOnItsLine "DCL-DS" opening.keywords = false) (lines : List InertLine)
    (ending : OperationLine .closeStructure) :
    feedLines path records.state number (Block.structureBlock opening lasts lines ending).lines =
      (records ++ (Block.structureBlock opening lasts lines ending).records path number).state := by
  rw [Block.lines, feed_enclosed]
  by_cases template : templateKeyword ∈ opening.keywords
  · have passed : records.state.consumeDocs = records.state := rfl
    rw [feed_structure_pattern opening.reads rfl template, passed,
      feed_inert_lines records.quiet_state,
      feed_stray_ending ending.reads rfl (by decide), Block.records, if_pos template,
      Records.append_empty]
  · have quiet (heading : Heading) : (records.state.openDraft (.dataStructure heading)).Quiet :=
      ⟨rfl, fun _ opened => nomatch opened⟩
    rw [feed_structure opening.reads rfl template lasts, feed_inert_lines (quiet _),
      feed_end_structure ending.reads rfl, Block.records, if_neg template,
      Records.finalize_structure]
    rfl

theorem feed_prototype_line_block (opening : NamedLine .openPrototype)
    (ends : endsOnItsLine "DCL-PR" opening.keywords = true) :
    feedLines path records.state number (Block.prototypeLine opening ends).lines =
      (records ++ (Block.prototypeLine opening ends).records path number).state := by
  rw [Block.lines, feed_lines_cons, Block.records]
  cases known : records.state.procedures.contains (upper opening.name) with
  | true =>
      rw [feed_prototype_known opening.reads known,
        Records.state_known_prototype records opening.name _ _ _ known]
      rfl
  | false =>
      rw [feed_prototype_line opening.reads rfl known ends, Records.finalize_procedure]
      rfl

theorem feed_prototype_block (opening : NamedLine .openPrototype)
    (lasts : endsOnItsLine "DCL-PR" opening.keywords = false) (parameters : List InertLine)
    (ending : OperationLine .closePrototype) :
    feedLines path records.state number
        (Block.prototypeBlock opening lasts parameters ending).lines =
      (records ++
        (Block.prototypeBlock opening lasts parameters ending).records path number).state := by
  rw [Block.lines, feed_enclosed, Block.records]
  cases known : records.state.procedures.contains (upper opening.name) with
  | true =>
      -- Nothing is opened, so the parameters and the closing line find nothing to speak to.
      rw [feed_prototype_known opening.reads known, feed_inert_lines records.quiet_state,
        feed_stray_ending ending.reads rfl (by decide),
        Records.state_known_prototype records opening.name _ _ _ known]
  | false =>
      rw [feed_prototype opening.reads rfl known lasts, feed_parameters _ rfl _ rfl rfl,
        feed_end_procedure ending.reads (.inl rfl) rfl, Records.finalize_procedure]
      rfl

theorem feed_subroutine_block (opening : NamedLine .openSubroutine) (lines : List InertLine)
    (ending : OperationLine .closeSubroutine) :
    feedLines path records.state number (Block.subroutine opening lines ending).lines =
      (records ++ (Block.subroutine opening lines ending).records path number).state := by
  rw [Block.lines, feed_enclosed, Block.records]
  cases known : records.state.subroutines.any fun old => old.isNamed (upper opening.name) with
  | true =>
      rw [feed_subroutine_known opening.reads known, feed_inert_lines records.quiet_state,
        feed_stray_ending ending.reads rfl (by decide), subroutineRecord,
        Records.state_known_subroutine records opening.name _ known]
  | false =>
      have quiet (heading : Heading) : (records.state.openDraft (.subroutine heading)).Quiet :=
        ⟨rfl, fun _ opened => nomatch opened⟩
      rw [feed_subroutine opening.reads rfl known, feed_inert_lines (quiet _),
        feed_end_subroutine ending.reads rfl, subroutineRecord,
        Records.state_new_subroutine records opening.name _ known]
      rfl

theorem quiet_procedure (draft : ProcedureDraft) (closed : draft.reading = false) :
    (records.state.openDraft (.procedure draft)).Quiet := by
  refine ⟨rfl, ?_⟩
  rintro _ ⟨⟩
  exact closed

theorem feed_body_subroutine (draft : ProcedureDraft) (closed : draft.reading = false)
    (opening : NamedLine .openSubroutine) (lines : List InertLine)
    (ending : OperationLine .closeSubroutine) :
    feedLines path (records.state.openDraft (.procedure draft)) number
        (BodyPart.subroutine opening lines ending).lines =
      (records ++ (BodyPart.subroutine opening lines ending).records path number).state.openDraft
        (.procedure draft) := by
  rw [BodyPart.lines, feed_enclosed, BodyPart.records, subroutineRecord]
  let inside := records.state.openDraft (.procedure draft)
  cases known : records.state.subroutines.any fun old => old.isNamed (upper opening.name) with
  | true =>
      have passed : (inside.subroutines.any fun old => old.isNamed (upper opening.name)) = true :=
        known
      rw [feed_subroutine_known opening.reads passed,
        feed_inert_lines (quiet_procedure records draft closed),
        feed_line_of_instruction ending.reads,
        Records.state_known_subroutine records opening.name _ known]
      rfl
  | false =>
      have new : (inside.subroutines.any fun old => old.isNamed (upper opening.name)) = false :=
        known
      have quiet (heading : Heading) :
          (openDraft { inside with suspended := some draft } (.subroutine heading)).Quiet :=
        ⟨rfl, fun _ opened => nomatch opened⟩
      rw [feed_subroutine_inside opening.reads rfl new, feed_inert_lines (quiet _),
        feed_end_subroutine ending.reads rfl,
        Records.state_new_subroutine records opening.name _ known]
      rfl

theorem feed_body_part (draft : ProcedureDraft) (closed : draft.reading = false)
    (part : BodyPart) :
    feedLines path (records.state.openDraft (.procedure draft)) number part.lines =
      (records ++ part.records path number).state.openDraft (.procedure draft) := by
  cases part with
  | inert line =>
      rw [BodyPart.lines, feed_lines_cons, feed_inert (quiet_procedure records draft closed),
        BodyPart.records, Records.append_empty]
      rfl
  | declaration line =>
      rw [BodyPart.lines, feed_lines_cons, feed_local line.line.reads rfl line.isLocal,
        BodyPart.records, Records.append_empty]
      rfl
  | subroutine opening lines ending =>
      exact feed_body_subroutine path number records draft closed opening lines ending

theorem feed_body (draft : ProcedureDraft) (closed : draft.reading = false)
    (body : List BodyPart) :
    feedLines path (records.state.openDraft (.procedure draft)) number
        (body.flatMap BodyPart.lines) =
      (records ++ bodyRecords path number body).state.openDraft (.procedure draft) := by
  induction body generalizing number records with
  | nil =>
      rw [bodyRecords, Records.append_empty]
      rfl
  | cons part rest induction =>
      rw [List.flatMap_cons, feed_lines_append, feed_body_part path number records draft closed,
        induction, bodyRecords, Records.append_assoc]

theorem feed_interface_lines (name : String) (display : List String) (position : Position)
    (interface : Interface) :
    feedLines path (records.state.openDraft
        (.procedure ⟨Heading.of name display {} position, .definition, false, []⟩)) number
        interface.lines =
      records.state.openDraft (.procedure ⟨Heading.of name interface.display {} position,
        .definition, false, interface.parameters path number⟩) := by
  cases interface with
  | line opening ends =>
      rw [Interface.lines, feed_lines_cons, feed_interface opening.reads rfl]
      rw [show endsOnItsLine "DCL-PI" ((opening.others.drop 1).map upper) = true from ends]
      rfl
  | block opening lasts parameters ending =>
      rw [Interface.lines, feed_enclosed, feed_interface opening.reads rfl]
      rw [show endsOnItsLine "DCL-PI" ((opening.others.drop 1).map upper) = false from lasts]
      rw [feed_parameters _ rfl _ rfl rfl, feed_end_interface ending.reads rfl]
      rfl

theorem feed_preamble (name : String) (display : List String) (position : Position)
    (lines : List InertLine) (interface : Option Interface) :
    feedLines path (records.state.openDraft
        (.procedure ⟨Heading.of name display {} position, .definition, false, []⟩)) number
        (preamble lines interface) =
      records.state.openDraft (.procedure
        ⟨Heading.of name ((interface.map Interface.display).getD display) {} position,
          .definition, false,
          (interface.map (Interface.parameters path (number + lines.length))).getD []⟩) := by
  rw [preamble, feed_lines_append, feed_inert_lines (quiet_procedure records _ rfl),
    List.length_map]
  cases interface with
  | none => rfl
  | some interface => exact feed_interface_lines path _ records name display position interface

theorem feed_procedure_block (opening : NamedLine .openProcedure) (lines : List InertLine)
    (interface : Option Interface) (body : List BodyPart)
    (ending : OperationLine .closeProcedure) :
    feedLines path records.state number
        (Block.procedure opening lines interface body ending).lines =
      (records ++
        (Block.procedure opening lines interface body ending).records path number).state := by
  have begun : records.state.feedLine ⟨path, number⟩ opening.raw =
      records.state.openDraft (.procedure
        ⟨Heading.of opening.name opening.display {} ⟨path, number⟩, .definition, false, []⟩) :=
    feed_procedure opening.reads
  rw [Block.lines, ← List.append_assoc, feed_enclosed, begun, feed_lines_append, feed_preamble,
    feed_body path _ records _ rfl, feed_end_procedure ending.reads (.inr rfl) rfl,
    Records.finalize_procedure, Block.records, Records.append_assoc]
  rfl

theorem feed_block (block : Block) :
    feedLines path records.state number block.lines =
      (records ++ block.records path number).state := by
  cases block with
  | inert line =>
      rw [Block.lines, feed_lines_cons, feed_inert records.quiet_state, Block.records,
        Records.append_empty]
      rfl
  | constant line => exact feed_constant_block path number records line
  | standalone line => exact feed_standalone_block path number records line
  | structureLine opening ends =>
      exact feed_structure_line_block path number records opening ends
  | structureBlock opening lasts lines ending =>
      exact feed_structure_block path number records opening lasts lines ending
  | prototypeLine opening ends =>
      exact feed_prototype_line_block path number records opening ends
  | prototypeBlock opening lasts parameters ending =>
      exact feed_prototype_block path number records opening lasts parameters ending
  | subroutine opening lines ending =>
      exact feed_subroutine_block path number records opening lines ending
  | procedure opening lines interface body ending =>
      exact feed_procedure_block path number records opening lines interface body ending

theorem feed_blocks (blocks : List Block) :
    feedLines path records.state number (blocks.flatMap Block.lines) =
      (records ++ blockRecords path number blocks).state := by
  induction blocks generalizing number records with
  | nil =>
      rw [blockRecords, Records.append_empty]
      rfl
  | cons block rest induction =>
      rw [List.flatMap_cons, feed_lines_append, feed_block path number records block, induction,
        blockRecords, Records.append_assoc]

end Blocks

end Assembler

/-- The model of well-formed source is the one its blocks declare, each with the number of its
first line: every constant, every variable and structure that is no template, one procedure and one
subroutine for each name. -/
theorem assemble_blocks (path : String) (blocks : List Block) :
    assemble [(path, blocks.flatMap Block.lines)] = (blockRecords path 0 blocks).model := by
  have fed : ({} : Assembler).feedFile path (blocks.flatMap Block.lines) =
      (({} : Records) ++ blockRecords path 0 blocks).state :=
    Assembler.feed_blocks path 0 {} blocks
  change (({} : Assembler).feedFile path (blocks.flatMap Block.lines)).finish = _
  rw [fed]
  rfl

example :
    let prototype : NamedLine .openPrototype :=
      ⟨"dcl-pr Sum end-pr;", "Sum", ["end-pr"], by decide +kernel⟩
    let opening : NamedLine .openProcedure := ⟨"dcl-proc sum;", "sum", [], by decide +kernel⟩
    let ending : OperationLine .closeProcedure := ⟨"end-proc;", [], by decide +kernel⟩
    let blocks := [Block.prototypeLine prototype (by decide +kernel),
      Block.procedure opening [] none [] ending]
    (blockRecords "/a" 0 blocks).model.procedures.map Declaration.position =
      [some ⟨"/a", 1⟩] := by
  decide +kernel

end RpgSymbols
