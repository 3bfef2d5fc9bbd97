import RpgSymbols.Proofs.Source.Consistency
import RpgSymbols.Proofs.Source.Origin

/-!
What every record looks like. The keywords of a declaration are its words in upper case, from the
line that opens it or from an interface, and parameters are kept with procedures alone. A draft has
all of this while it is open or suspended, whatever lines come in between, so the record that it
ends as has it too.
-/

namespace RpgSymbols

open Text

/-- The record of a parameter: its keywords are its words in upper case, and it carries neither
title nor tags nor parameters of its own. -/
structure Declaration.IsParameter (declaration : Declaration) : Prop where
  kind : declaration.kind = .subitem
  keywords : declaration.keywords = declaration.displayKeywords.map upper
  title : declaration.title = none
  tags : declaration.tags = []
  subItems : declaration.subItems = []

/-- The record of a declaration of the kind. Only a procedure has parameters. -/
structure Declaration.IsRecord (declaration : Declaration) (kind : Kind) : Prop where
  ofKind : declaration.kind = kind
  keywords : declaration.keywords = declaration.displayKeywords.map upper
  subItems : kind ≠ .procedure → declaration.subItems = []
  parameters : ∀ parameter ∈ declaration.subItems, parameter.IsParameter

structure Model.WellFormed (model : Model) : Prop where
  constants : ∀ declaration ∈ model.constants, declaration.IsRecord .constant
  standalones : ∀ declaration ∈ model.standalones, declaration.IsRecord .standalone
  structures : ∀ declaration ∈ model.structures, declaration.IsRecord .dataStructure
  procedures : ∀ declaration ∈ model.procedures, declaration.IsRecord .procedure
  subroutines : ∀ declaration ∈ model.subroutines, declaration.IsRecord .subroutine

def Heading.Spelled (heading : Heading) : Prop :=
  heading.keywords = heading.displayKeywords.map upper

structure ProcedureDraft.WellFormed (draft : ProcedureDraft) : Prop where
  heading : draft.heading.Spelled
  parameters : ∀ parameter ∈ draft.parameters, parameter.IsParameter

def Draft.WellFormed : Draft → Prop
  | .dataStructure heading | .subroutine heading => heading.Spelled
  | .procedure draft => draft.WellFormed

theorem Heading.spelled_of (name : String) (display : List String) (docs : Documentation)
    (position : Position) : (Heading.of name display docs position).Spelled := rfl

theorem Heading.Spelled.record {heading : Heading} (spelled : heading.Spelled) (kind : Kind) :
    (heading.declare kind []).IsRecord kind :=
  ⟨rfl, spelled, fun _ => rfl, by simp [Heading.declare]⟩

namespace ProcedureDraft

variable {draft : ProcedureDraft}

theorem WellFormed.record (formed : draft.WellFormed) : draft.finish.IsRecord .procedure :=
  ⟨rfl, formed.heading, fun other => absurd rfl other, formed.parameters⟩

theorem is_parameter_of_words {words : List String} {position : Position}
    {parameter : Declaration} (declared : draft.parameter? words position = some parameter) :
    parameter.IsParameter := by
  cases words with
  | nil => cases declared
  | cons first display =>
      rw [← Option.some.inj declared]
      exact ⟨rfl, rfl, rfl, rfl, rfl⟩

theorem WellFormed.add_parameter (formed : draft.WellFormed) (words : List String)
    (position : Position) : (draft.addParameter words position).WellFormed := by
  refine ⟨formed.heading, ?_⟩
  intro parameter listed
  rcases List.mem_append.mp listed with before | added
  · exact formed.parameters parameter before
  · exact is_parameter_of_words (Option.mem_toList.mp added)

/-- The words of an interface are put into upper case like those of a heading. -/
theorem WellFormed.begin_interface (formed : draft.WellFormed) (display : List String)
    (oneLine : Bool) : (draft.beginInterface display oneLine).WellFormed :=
  ⟨rfl, formed.parameters⟩

end ProcedureDraft

namespace Assembler

structure WellFormed (state : Assembler) : Prop where
  gathered : state.finish.WellFormed
  current : ∀ draft, state.current = some draft → draft.WellFormed
  suspended : ∀ draft, state.suspended = some draft → draft.WellFormed

theorem WellFormed.with_docs {state : Assembler} (formed : state.WellFormed)
    (docs : DocumentationTracker) : { state with docs := docs }.WellFormed :=
  ⟨formed.gathered, formed.current, formed.suspended⟩

theorem well_formed_open {state : Assembler} (formed : state.WellFormed) {draft : Draft}
    (spelled : draft.WellFormed) : (state.openDraft draft).WellFormed := by
  refine ⟨formed.gathered, ?_, formed.suspended⟩
  rintro _ ⟨rfl⟩
  exact spelled

theorem well_formed_finalize {state : Assembler} (formed : state.WellFormed) :
    state.finalize.WellFormed := by
  obtain ⟨gathered, current, suspended⟩ := formed
  have stored : state.finalize.finish.WellFormed := by
    cases opened : state.current with
    | none =>
        simp only [finalize, opened]
        exact gathered
    | some draft =>
        have spelled := current draft opened
        cases draft with
        | dataStructure heading =>
            simp only [finalize, opened]
            exact { gathered with
              structures := forall_mem_concat gathered.structures (Heading.Spelled.record spelled _) }
        | procedure draft =>
            simp only [finalize, opened]
            refine { gathered with procedures := ?_ }
            intro declaration listed
            rcases ProcedureIndex.mem_add listed with before | rfl
            · exact gathered.procedures declaration before
            · exact ProcedureDraft.WellFormed.record spelled
        | subroutine heading =>
            simp only [finalize, opened]
            exact { gathered with
              subroutines := forall_mem_concat gathered.subroutines (Heading.Spelled.record spelled _) }
  refine ⟨stored, ?_, ?_⟩
  · intro draft opened
    rw [current_finalize] at opened
    cases opened
  · rw [suspended_finalize]
    exact suspended

theorem well_formed_effect {state next : Assembler} {position : Position} {raw : String}
    (effect : Effect state position raw next) (formed : state.WellFormed) : next.WellFormed := by
  have procedure {draft : ProcedureDraft} (opened : state.current = some (.procedure draft)) :
      draft.WellFormed := formed.current _ opened
  cases effect with
  | idle => exact formed
  | marker reads => exact formed.with_docs _
  | comment inert worded active => exact formed.with_docs _
  | parameter inert worded opened reading =>
      exact well_formed_open formed ((procedure opened).add_parameter _ _)
  | constant reads vacant =>
      refine ⟨{ formed.gathered with constants := ?_ }, formed.current, formed.suspended⟩
      exact forall_mem_concat formed.gathered.constants ((Heading.spelled_of ..).record _)
  | standalone reads vacant plain =>
      refine ⟨{ formed.gathered with standalones := ?_ }, formed.current, formed.suspended⟩
      exact forall_mem_concat formed.gathered.standalones ((Heading.spelled_of ..).record _)
  | pattern reads declares vacant template => exact formed.with_docs _
  | structureBegun reads vacant plain lasts => exact well_formed_open formed rfl
  | structureLine reads vacant plain ends =>
      exact well_formed_finalize (well_formed_open formed rfl)
  | prototypeBegun reads vacant new lasts => exact well_formed_open formed ⟨rfl, by simp⟩
  | prototypeLine reads vacant new ends =>
      exact well_formed_finalize (well_formed_open formed ⟨rfl, by simp⟩)
  | procedureBegun reads =>
      have alone : { state with suspended := none }.WellFormed :=
        ⟨formed.gathered, formed.current, nofun⟩
      exact well_formed_open alone ⟨rfl, by simp⟩
  | interfaceBegun reads opened =>
      exact well_formed_open formed ((procedure opened).begin_interface _ _)
  | interfaceEnded reads opened =>
      have closed := procedure opened
      exact well_formed_open formed ⟨closed.heading, closed.parameters⟩
  | @subroutineBegun name display suspended reads new suspends keeps =>
      have waiting : { state with suspended := suspended }.WellFormed := by
        refine ⟨formed.gathered, formed.current, ?_⟩
        intro draft waits
        rcases suspended_before suspends keeps waits with opened | before
        · exact procedure opened
        · exact formed.suspended draft before
      exact well_formed_open waiting rfl
  | structureEnded reads opened => exact well_formed_finalize formed
  | procedureEnded reads closes opened => exact well_formed_finalize formed
  | subroutineEnded reads opened =>
      have stored := well_formed_finalize formed
      refine ⟨stored.gathered, ?_, nofun⟩
      intro draft resumed
      obtain ⟨procedure, waited, rfl⟩ := Option.map_eq_some_iff.mp resumed
      exact formed.suspended procedure waited

theorem well_formed_feed_line {state : Assembler} (position : Position) (raw : String)
    (formed : state.WellFormed) : (state.feedLine position raw).WellFormed :=
  well_formed_effect (feed_line_effect state position raw) formed

theorem well_formed_begin_file {state : Assembler} (formed : state.WellFormed) :
    state.beginFile.WellFormed :=
  ⟨formed.gathered, nofun, nofun⟩

theorem well_formed_start : WellFormed {} := by
  refine ⟨?_, nofun, nofun⟩
  constructor <;> simp [finish, ProcedureIndex.toList]

theorem well_formed_feed_all (feedings : List Feeding) : (feedAll feedings).WellFormed := by
  apply feed_all_keeps
  · exact fun state position raw => well_formed_feed_line position raw
  · exact fun state => well_formed_begin_file
  · exact well_formed_start

theorem well_formed_feed_files (files : List (String × List String)) :
    (feedFiles {} files).WellFormed := by
  refine feed_files_keeps ?_ ?_ {} files well_formed_start
  · exact fun state position raw => well_formed_feed_line position raw
  · exact fun state => well_formed_begin_file

theorem kinded_feed_files (files : List (String × List String)) :
    Kinded (feedFiles {} files) := by
  have formed := (well_formed_feed_files files).gathered
  constructor
  · exact fun declaration listed => (formed.constants declaration listed).ofKind
  · exact fun declaration listed => (formed.standalones declaration listed).ofKind
  · exact fun declaration listed => (formed.structures declaration listed).ofKind
  · exact fun declaration listed => (formed.subroutines declaration listed).ofKind

end Assembler

end RpgSymbols
