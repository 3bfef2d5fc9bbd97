import RpgSymbols.Proofs.Source.Growth
import RpgSymbols.Proofs.Source.Origin
import RpgSymbols.Proofs.Text.Parts

/-!
Parameters and the tags that describe them. They are matched by their places alone. A procedure has
its tags from the line that opens it, and its parameters come later, on lines of their own. Whatever
comments, directives or subroutines stand between them, the parameter at a place is described by the
tag at the same place.
-/

namespace RpgSymbols

open Text

/-! What one tag says. -/

/-- The text that the content of a parameter's tag gives: what follows the first blank, trimmed, or
what stands before that blank if nothing follows it. -/
structure GivesText (content text : String) : Prop where
  blank : ∀ name rest, content = name ++ " " ++ rest → ' ' ∉ name.toList →
    text = if trim rest = "" then name else trim rest
  whole : ' ' ∉ content.toList → text = content

theorem parameter_text_given (content : String) :
    GivesText content (Documentation.parameterText content) := by
  constructor
  · intro name rest spelled absent
    have front : before ' ' content = name := by
      rw [spelled]
      exact before_first absent rest
    have behind : after ' ' content = rest := by
      rw [spelled]
      exact after_first absent rest
    rw [Documentation.parameterText, front, behind]
    simp only [String.isEmpty_iff]
  · intro absent
    rw [Documentation.parameterText, before_uncut absent, after_uncut absent]
    rfl

/-! What a parameter has from its line, and what from its procedure. -/

def Declaration.documentation (declaration : Declaration) : Documentation :=
  ⟨declaration.title, declaration.description, declaration.tags⟩

/-- The parameter stands on a line of the files and is named by the first word there, behind a
`DCL-` word if there is one. A parameter without a name is counted instead. -/
def Declaration.NamedIn (parameter : Declaration) (files : List (String × List String))
    (ordinal : Nat) : Prop :=
  ∃ position raw first display, parameter.position = some position ∧
    Assembler.StandsAt files position raw ∧ parameterLine? raw = some (first :: display) ∧
    first ∈ displayWords (trim raw) ∧
    parameter.name =
      if upper first = anonymousWord then "parm" ++ Number.natText (ordinal + 1) else first

/-- Every parameter of the procedure is named by its line and described by the tag at its place. -/
def Declaration.Matched (procedure : Declaration) (files : List (String × List String)) : Prop :=
  ∀ (ordinal : Nat) parameter, procedure.subItems[ordinal]? = some parameter →
    parameter.description = procedure.documentation.parameterDescription ordinal ∧
      parameter.NamedIn files ordinal

theorem words_of_line {raw : String} {statement : Statement}
    (written : Statement.ofLine? raw = some statement) :
    displayWords (trim raw) = statement.first :: statement.others := by
  unfold Statement.ofLine? at written
  dsimp only at written
  split at written
  · cases written
  · rename_i shown
    rw [← Option.some.inj written]
    exact shown

theorem parameter_words_shown {raw : String} {words : List String}
    (worded : parameterLine? raw = some words) : words <:+ displayWords (trim raw) := by
  obtain ⟨statement, written, _, _, rfl⟩ := (parameter_line_iff raw words).mp worded
  rw [words_of_line written, ProcedureDraft.parameterWords]
  split
  · exact List.suffix_cons _ _
  · exact List.suffix_rfl

namespace ProcedureDraft

variable {files : List (String × List String)}

theorem matched_without_parameters (heading : Heading) (form : ProcedureForm) (reading : Bool) :
    (finish ⟨heading, form, reading, []⟩).Matched files := by
  intro ordinal parameter listed
  cases listed

variable {draft : ProcedureDraft} {position : Position} {raw : String} {words : List String}
  (stands : Assembler.StandsAt files position raw) (worded : parameterLine? raw = some words)
include stands worded

/-- The next parameter counts those before it, as its tag does. -/
theorem matched_parameter {parameter : Declaration}
    (declares : draft.parameter? words position = some parameter) :
    parameter.description =
        draft.finish.documentation.parameterDescription draft.parameters.length ∧
      parameter.NamedIn files draft.parameters.length := by
  cases words with
  | nil => cases declares
  | cons first display =>
      have shown := (parameter_words_shown worded).subset List.mem_cons_self
      cases declares
      exact ⟨rfl, position, raw, first, display, rfl, stands, worded, shown, rfl⟩

theorem matched_add_parameter (matched : draft.finish.Matched files) :
    (draft.addParameter words position).finish.Matched files := by
  intro ordinal parameter listed
  have placed : (draft.parameters ++ (draft.parameter? words position).toList)[ordinal]? =
      some parameter := listed
  by_cases earlier : ordinal < draft.parameters.length
  · rw [List.getElem?_append_left earlier] at placed
    exact matched ordinal parameter placed
  · rw [List.getElem?_append_right (Nat.le_of_not_lt earlier)] at placed
    cases declares : draft.parameter? words position with
    | none => simp [declares] at placed
    | some added =>
        rw [declares, Option.toList_some, List.getElem?_singleton] at placed
        split at placed
        · have last : ordinal = draft.parameters.length := by omega
          cases placed
          rw [last]
          exact matched_parameter stands worded declares
        · cases placed

end ProcedureDraft

def Draft.Matched (files : List (String × List String)) : Draft → Prop
  | .procedure draft => draft.finish.Matched files
  | _ => True

namespace Assembler

structure Matching (files : List (String × List String)) (state : Assembler) : Prop where
  stored : ∀ procedure ∈ state.procedures.toList, procedure.Matched files
  current : ∀ draft, state.current = some draft → draft.Matched files
  suspended : ∀ draft, state.suspended = some draft → draft.finish.Matched files

section Steps

variable {files : List (String × List String)} {state next : Assembler}

theorem matching_open (matching : state.Matching files) (suspended : Option ProcedureDraft)
    {draft : Draft} (matched : draft.Matched files)
    (waits : ∀ procedure, suspended = some procedure → procedure.finish.Matched files) :
    (openDraft { state with suspended := suspended } draft).Matching files := by
  refine ⟨matching.stored, ?_, waits⟩
  intro other opened
  cases opened
  exact matched

theorem matching_finalize (matching : state.Matching files) : state.finalize.Matching files := by
  constructor
  · intro procedure listed
    rcases procedures_finalize listed with before | ⟨draft, opened, finished⟩
    · exact matching.stored procedure before
    · rw [finished]
      exact matching.current _ opened
  · intro draft opened
    rw [current_finalize] at opened
    cases opened
  · rw [suspended_finalize]
    exact matching.suspended

theorem matching_effect {position : Position} {raw : String}
    (stands : StandsAt files position raw) (effect : Effect state position raw next)
    (matching : state.Matching files) : next.Matching files := by
  have waits := matching.suspended
  have begins (heading : Heading) (form : ProcedureForm) (reading : Bool) :
      (Draft.procedure ⟨heading, form, reading, []⟩).Matched files :=
    ProcedureDraft.matched_without_parameters heading form reading
  cases effect with
  | idle => exact matching
  | marker reads => exact ⟨matching.stored, matching.current, waits⟩
  | comment inert worded active => exact ⟨matching.stored, matching.current, waits⟩
  | constant reads vacant => exact ⟨matching.stored, matching.current, waits⟩
  | standalone reads vacant plain => exact ⟨matching.stored, matching.current, waits⟩
  | pattern reads declares vacant template => exact ⟨matching.stored, matching.current, waits⟩
  | parameter inert worded opened reading =>
      apply matching_open matching state.suspended _ waits
      exact ProcedureDraft.matched_add_parameter stands worded (matching.current _ opened)
  | structureBegun reads vacant plain lasts =>
      exact matching_open matching state.suspended trivial waits
  | structureLine reads vacant plain ends =>
      exact matching_finalize (matching_open matching state.suspended trivial waits)
  | prototypeBegun reads vacant new lasts =>
      exact matching_open matching state.suspended (begins _ _ _) waits
  | prototypeLine reads vacant new ends =>
      exact matching_finalize (matching_open matching state.suspended (begins _ _ _) waits)
  | procedureBegun reads => exact matching_open matching none (begins _ _ _) nofun
  | @interfaceBegun draft others reads opened =>
      have matched : draft.finish.Matched files := matching.current _ opened
      exact matching_open matching state.suspended matched waits
  | @interfaceEnded draft others reads opened =>
      have matched : draft.finish.Matched files := matching.current _ opened
      exact matching_open matching state.suspended matched waits
  | @subroutineBegun name display suspended reads new suspends keeps =>
      have waiting : ∀ draft, suspended = some draft → draft.finish.Matched files := by
        intro draft waited
        rcases suspended_before suspends keeps waited with opened | before
        · exact matching.current _ opened
        · exact waits draft before
      exact matching_open matching suspended trivial waiting
  | structureEnded reads opened => exact matching_finalize matching
  | procedureEnded reads closes opened => exact matching_finalize matching
  | subroutineEnded reads opened =>
      refine ⟨(matching_finalize matching).stored, ?_, nofun⟩
      intro draft resumed
      obtain ⟨procedure, waited, same⟩ := Option.map_eq_some_iff.mp resumed
      cases same
      exact waits procedure waited

end Steps

theorem matching_feed_files (files : List (String × List String)) :
    (feedFiles {} files).Matching files := by
  apply feed_files_keeps_standing
  · intro state position raw stands
    exact matching_effect stands (feed_line_effect state position raw)
  · exact fun state matching => ⟨matching.stored, nofun, nofun⟩
  · exact ⟨nofun, nofun, nofun⟩

end Assembler

/-- Every parameter of a model is described by the tag for parameters that has its place among the
tags of its procedure, and by nothing if there is none there; and it is named by its line or, if it
has no name there, by its place. -/
theorem assemble_matches_parameters (files : List (String × List String))
    {procedure parameter : Declaration} (listed : procedure ∈ (assemble files).procedures)
    {ordinal : Nat} (placed : procedure.subItems[ordinal]? = some parameter) :
    parameter.description = procedure.documentation.parameterDescription ordinal ∧
    (match (procedure.tags.filter fun tag => tag.tag = "param")[ordinal]? with
      | none => parameter.description = ""
      | some tag => GivesText tag.content parameter.description) ∧
    parameter.NamedIn files ordinal := by
  obtain ⟨described, named⟩ :=
    (Assembler.matching_feed_files files).stored procedure listed ordinal parameter placed
  refine ⟨described, ?_, named⟩
  rw [Documentation.parameterDescription, Documentation.parameterTags,
    Declaration.documentation] at described
  split
  · rename_i absent
    rw [absent] at described
    exact described
  · rename_i tag present
    rw [present] at described
    rw [described]
    exact parameter_text_given tag.content

/-- Comments, a directive and a subroutine stand between the parameters, and the second tag is not
one for parameters. -/
theorem parameters_between_other_lines :
    let source :=
      ["///", "// @param by  factor", "// @return both", "dcl-proc Scale;", "dcl-pi *n;", "*N int(10);",
        "// @param else", "/copy inc", "begsr Inner;", "endsr;", "dcl-parm Rate;", "end-proc;"]
    ∃ procedure ∈ (assemble [("/a", source)]).procedures,
      procedure.subItems.map Declaration.name = ["parm1", "Rate"] ∧
        (∃ first, procedure.subItems[0]? = some first ∧ GivesText "by  factor" first.description) ∧
        ∃ second, procedure.subItems[1]? = some second ∧ second.description = "" := by
  intro source
  let shape (procedure : Declaration) := (procedure.tags, procedure.subItems.map Declaration.name)
  have made : ([⟨"param", "by  factor"⟩, ⟨"return", "both"⟩], ["parm1", "Rate"]) ∈
      (assemble [("/a", source)]).procedures.map shape := by
    decide +kernel
  obtain ⟨procedure, listed, same⟩ := List.mem_map.mp made
  obtain ⟨tagged, named⟩ := Prod.mk.inj same
  have speaks : (procedure.tags.filter fun tag => tag.tag = "param") = [⟨"param", "by  factor"⟩] := by
    rw [tagged]
    decide +kernel
  have placed : ∀ ordinal < 2, ∃ parameter, procedure.subItems[ordinal]? = some parameter := by
    intro ordinal bound
    have count : procedure.subItems.length = 2 := by
      simpa using congrArg List.length named
    exact ⟨_, List.getElem?_eq_getElem (count ▸ bound)⟩
  have described {ordinal : Nat} {parameter : Declaration}
      (found : procedure.subItems[ordinal]? = some parameter) :=
    (assemble_matches_parameters [("/a", source)] listed found).2.1
  rw [speaks] at described
  obtain ⟨first, atFirst⟩ := placed 0 (by decide)
  obtain ⟨second, atSecond⟩ := placed 1 (by decide)
  exact ⟨procedure, listed, named, ⟨first, atFirst, described atFirst⟩,
    ⟨second, atSecond, described atSecond⟩⟩

end RpgSymbols
