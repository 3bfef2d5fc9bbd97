import RpgSymbols.Proofs.Source.Provenance

/-!
Files compose. Two things pass from one file to the next, the names of procedures and those of
subroutines, and they only matter to lines that open one of these names again. Where files share no
name, each is read as if it stood alone, and the model of all of them is made of their own models,
one behind the other.
-/

namespace RpgSymbols

open Text

/-- The name, in upper case, of what a line opens by one of the operations. -/
def openedName? (operations : List Operation) (raw : String) : Option String :=
  (instruction? raw).bind fun (operation, others) =>
    if operation ∈ operations then others.head?.map upper else none

def openedNames (operations : List Operation) (lines : List String) : List String :=
  lines.filterMap (openedName? operations)

def procedureOpenings : List Operation := [.openPrototype, .openProcedure]

def subroutineOpenings : List Operation := [.openSubroutine]

/-- No procedure is opened under the same name in both files, and no subroutine is. -/
structure ShareNoName (first second : List String) : Prop where
  procedures : ∀ name ∈ openedNames procedureOpenings first,
    name ∉ openedNames procedureOpenings second
  subroutines : ∀ name ∈ openedNames subroutineOpenings first,
    name ∉ openedNames subroutineOpenings second

def Model.concat (models : List Model) : Model where
  constants := models.flatMap Model.constants
  standalones := models.flatMap Model.standalones
  structures := models.flatMap Model.structures
  procedures := models.flatMap Model.procedures
  subroutines := models.flatMap Model.subroutines

theorem opened_name {operation : Operation} {name raw : String} {display : List String}
    {operations : List Operation}
    (reads : instruction? raw = some (operation, name :: display))
    (listed : operation ∈ operations) : openedName? operations raw = some (upper name) := by
  rw [openedName?, reads, Option.bind_some]
  exact if_pos listed

theorem ShareNoName.symm {first second : List String} (apart : ShareNoName first second) :
    ShareNoName second first :=
  ⟨fun name here there => apart.procedures name there here,
    fun name here there => apart.subroutines name there here⟩

namespace ProcedureIndex

/-- The entries of an index with earlier ones in front. -/
def behind (index earlier : ProcedureIndex) : ProcedureIndex :=
  ⟨earlier.entries ++ index.entries⟩

section Behind

variable {index earlier : ProcedureIndex} {name : String}

theorem keys_behind : (index.behind earlier).keys = earlier.keys ++ index.keys :=
  List.map_append

theorem contains_behind (new : upper name ∉ earlier.keys) :
    (index.behind earlier).contains (upper name) = index.contains (upper name) := by
  rw [Bool.eq_iff_iff, contains_iff, contains_iff, upper_upper, keys_behind, List.mem_append]
  exact or_iff_right new

/-- Earlier entries of other names are left alone. -/
theorem add_behind (index : ProcedureIndex) (declaration : Declaration) (form : ProcedureForm)
    (new : upper declaration.name ∉ earlier.keys) :
    (index.behind earlier).add declaration form = (index.add declaration form).behind earlier := by
  by_cases known : upper declaration.name ∈ index.keys
  · have there : upper declaration.name ∈ (index.behind earlier).keys := by
      rw [keys_behind]
      exact List.mem_append_right _ known
    cases form with
    | prototype => rw [add_prototype there, add_prototype known]
    | definition =>
        have kept : (earlier.entries.map fun old =>
            if old.key = upper declaration.name then ⟨declaration, .definition⟩ else old) =
              earlier.entries := by
          conv_rhs => rw [← List.map_id earlier.entries]
          apply List.map_congr_left
          intro old listed
          exact if_neg fun same => new (List.mem_map.mpr ⟨old, listed, same⟩)
        rw [add_definition there, add_definition known, behind, behind, List.map_append, kept]
  · have absent : upper declaration.name ∉ (index.behind earlier).keys := by
      rw [keys_behind, List.mem_append]
      exact not_or.mpr ⟨new, known⟩
    rw [add_new absent, add_new known, behind, behind, List.append_assoc]

end Behind

end ProcedureIndex

namespace Assembler

/-- A state with what was gathered earlier in front of what it gathered itself. -/
def behind (state earlier : Assembler) : Assembler := { state with
  constants := earlier.constants ++ state.constants
  standalones := earlier.standalones ++ state.standalones
  structures := earlier.structures ++ state.structures
  procedures := state.procedures.behind earlier.procedures
  subroutines := earlier.subroutines ++ state.subroutines }

/-- A line opens no procedure and no subroutine that was gathered earlier. -/
structure NewTo (earlier : Assembler) (raw : String) : Prop where
  procedure : ∀ name, openedName? procedureOpenings raw = some name →
    name ∉ earlier.procedures.keys
  subroutine : ∀ name, openedName? subroutineOpenings raw = some name →
    name ∉ earlier.subroutines.map Declaration.key

/-- The procedures that are open or suspended have names that were not gathered earlier. -/
def DraftsNewTo (earlier state : Assembler) : Prop :=
  ∀ draft, state.current = some (.procedure draft) ∨ state.suspended = some draft →
    upper draft.heading.name ∉ earlier.procedures.keys

section Behind

variable {earlier state : Assembler}

theorem current_behind : (state.behind earlier).current = state.current := rfl

theorem docs_behind : (state.behind earlier).docs = state.docs := rfl

theorem known_behind {name : String} (new : upper name ∉ earlier.subroutines.map Declaration.key) :
    ((state.behind earlier).subroutines.any fun known => known.isNamed (upper name)) =
      state.subroutines.any fun known => known.isNamed (upper name) := by
  have absent : (earlier.subroutines.any fun known => known.isNamed (upper name)) = false := by
    rw [← Bool.not_eq_true, named_any_iff]
    exact new
  rw [behind, List.any_append, absent, Bool.false_or]

theorem finalize_behind (fits : DraftsNewTo earlier state) :
    (state.behind earlier).finalize = state.finalize.behind earlier := by
  cases opened : state.current with
  | none => simp only [finalize, opened, consumeDocs, behind]
  | some draft =>
      cases draft with
      | dataStructure heading =>
          simp only [finalize, opened, consumeDocs, behind, List.append_assoc]
      | procedure draft =>
          have stored := ProcedureIndex.add_behind state.procedures draft.finish draft.form
            (fits draft (.inl opened))
          simp only [finalize, opened, consumeDocs, behind, stored]
      | subroutine heading =>
          simp only [finalize, opened, consumeDocs, behind, List.append_assoc]

theorem drafts_new_open (fits : DraftsNewTo earlier state) (draft : Draft)
    (new : ∀ procedure, draft = .procedure procedure →
      upper procedure.heading.name ∉ earlier.procedures.keys) :
    DraftsNewTo earlier (state.openDraft draft) := by
  rintro procedure (opened | waits)
  · exact new procedure (Option.some.inj opened)
  · exact fits procedure (.inr waits)

/-- The open procedure keeps its name while its interface is read. -/
theorem drafts_new_replace (fits : DraftsNewTo earlier state) {before : ProcedureDraft}
    (opened : state.current = some (.procedure before)) (after : ProcedureDraft)
    (name : after.heading.name = before.heading.name) :
    DraftsNewTo earlier { state with current := some (.procedure after) } := by
  refine drafts_new_open fits (.procedure after) ?_
  rintro procedure ⟨rfl⟩
  rw [name]
  exact fits before (.inl opened)

theorem constant_behind (others : List String) (position : Position) :
    (state.behind earlier).onConstant others position =
      (state.onConstant others position).behind earlier := by
  unfold onConstant
  rw [current_behind]
  split
  · simp only [consumeDocs, behind, List.append_assoc]
  · rfl

theorem standalone_behind (others : List String) (position : Position) :
    (state.behind earlier).onStandalone others position =
      (state.onStandalone others position).behind earlier := by
  unfold onStandalone
  rw [current_behind, docs_behind]
  split
  · dsimp only
    split
    · rfl
    · simp only [consumeDocs, behind, List.append_assoc]
  · rfl

theorem open_structure_behind (fits : DraftsNewTo earlier state) (others : List String)
    (position : Position) :
    (state.behind earlier).onOpenStructure others position =
      (state.onOpenStructure others position).behind earlier := by
  unfold onOpenStructure
  rw [current_behind, docs_behind]
  split
  · rename_i name display _
    dsimp only
    split
    · rfl
    · split
      · exact finalize_behind (drafts_new_open fits (.dataStructure _) nofun)
      · rfl
  · rfl

theorem open_prototype_behind (fits : DraftsNewTo earlier state) {others : List String}
    (new : ∀ name display, others = name :: display → upper name ∉ earlier.procedures.keys)
    (position : Position) :
    (state.behind earlier).onOpenPrototype others position =
      (state.onOpenPrototype others position).behind earlier := by
  unfold onOpenPrototype
  rw [current_behind, docs_behind]
  split
  · rename_i name display vacant
    have unknown : upper name ∉ earlier.procedures.keys := new name display rfl
    have asked : (state.behind earlier).procedures.contains (upper name) =
        state.procedures.contains (upper name) := ProcedureIndex.contains_behind unknown
    rw [asked]
    dsimp only
    split
    · rfl
    · split
      · refine finalize_behind (drafts_new_open fits (.procedure _) ?_)
        rintro procedure ⟨rfl⟩
        exact unknown
      · rfl
  · rfl

theorem open_subroutine_behind {others : List String}
    (new : ∀ name display, others = name :: display →
      upper name ∉ earlier.subroutines.map Declaration.key)
    (position : Position) :
    (state.behind earlier).onOpenSubroutine others position =
      (state.onOpenSubroutine others position).behind earlier := by
  unfold onOpenSubroutine
  split
  · rfl
  · rename_i name display
    rw [known_behind (new name display rfl)]
    split
    · rfl
    · rfl

theorem close_subroutine_behind (fits : DraftsNewTo earlier state) :
    (state.behind earlier).onCloseSubroutine = state.onCloseSubroutine.behind earlier := by
  by_cases inside : ∃ heading, state.current = some (.subroutine heading)
  · obtain ⟨heading, opened⟩ := inside
    have there : (state.behind earlier).current = some (.subroutine heading) := opened
    rw [close_subroutine_resumes there, close_subroutine_resumes opened, finalize_behind fits]
    rfl
  · unfold onCloseSubroutine
    rw [current_behind]
    split
    · rename_i heading opened
      exact absurd ⟨heading, opened⟩ inside
    · rfl

/-- An instruction that opens no earlier name does the same behind what was gathered earlier. -/
theorem perform_behind {raw : String} {operation : Operation} {others : List String}
    (reads : instruction? raw = some (operation, others)) (new : NewTo earlier raw)
    (fits : DraftsNewTo earlier state) (position : Position) :
    (state.behind earlier).perform operation others position =
      (state.perform operation others position).behind earlier := by
  cases operation with
  | docMarker => rfl
  | constant => exact constant_behind others position
  | standalone => exact standalone_behind others position
  | openStructure => exact open_structure_behind fits others position
  | closeStructure =>
      simp only [perform, onCloseStructure, current_behind]
      split
      · exact finalize_behind fits
      · rfl
  | openPrototype =>
      refine open_prototype_behind fits ?_ position
      rintro name display rfl
      exact new.procedure _ (opened_name reads (by decide))
  | closePrototype =>
      simp only [perform, onCloseProcedure, current_behind]
      split
      · exact finalize_behind fits
      · rfl
  | openProcedure => cases others <;> rfl
  | openInterface =>
      simp only [perform, onOpenInterface, current_behind]
      split
      · rfl
      · rfl
  | closeInterface =>
      simp only [perform, onCloseInterface, current_behind]
      split
      · rfl
      · rfl
  | closeProcedure =>
      simp only [perform, onCloseProcedure, current_behind]
      split
      · exact finalize_behind fits
      · rfl
  | openSubroutine =>
      refine open_subroutine_behind ?_ position
      rintro name display rfl
      exact new.subroutine _ (opened_name reads (by decide))
  | closeSubroutine => exact close_subroutine_behind fits

theorem inert_behind {raw : String} (inert : Inert raw) (position : Position) :
    (state.behind earlier).feedLine position raw =
      (state.feedLine position raw).behind earlier := by
  cases worded : comment? raw with
  | some text =>
      rw [feed_line_of_comment inert worded, feed_line_of_comment inert worded, docs_behind]
      split
      · simp only [behind]
      · rfl
  | none =>
      cases declares : parameterLine? raw with
      | none =>
          rw [feed_line_of_silence inert worded declares,
            feed_line_of_silence inert worded declares]
      | some words =>
          rw [feed_line_of_parameter inert declares, feed_line_of_parameter inert declares,
            current_behind]
          split
          · split
            · rfl
            · rfl
          · rfl

theorem feed_line_behind {raw : String} (new : NewTo earlier raw)
    (fits : DraftsNewTo earlier state) (position : Position) :
    (state.behind earlier).feedLine position raw =
      (state.feedLine position raw).behind earlier := by
  cases reads : instruction? raw with
  | none => exact inert_behind reads position
  | some read =>
      rw [feed_line_of_instruction reads, feed_line_of_instruction reads]
      exact perform_behind reads new fits position

theorem drafts_new_effect {raw : String} {position : Position} {next : Assembler}
    (effect : Effect state position raw next) (new : NewTo earlier raw)
    (fits : DraftsNewTo earlier state) : DraftsNewTo earlier next := by
  have finished : ∀ {state : Assembler}, DraftsNewTo earlier state →
      DraftsNewTo earlier state.finalize := by
    rintro state fits draft (opened | waits)
    · cases opened
    · exact fits draft (.inr ((suspended_finalize state).symm.trans waits))
  cases effect with
  | comment inert worded active => exact fun draft held => fits draft held
  | parameter inert worded opened reading => exact drafts_new_replace fits opened _ rfl
  | structureBegun reads vacant plain lasts => exact drafts_new_open fits (.dataStructure _) nofun
  | structureLine reads vacant plain ends =>
      exact finished (drafts_new_open fits (.dataStructure _) nofun)
  | prototypeBegun reads vacant unknown lasts =>
      refine drafts_new_open fits (.procedure _) ?_
      rintro procedure ⟨rfl⟩
      exact new.procedure _ (opened_name reads (by decide))
  | prototypeLine reads vacant unknown ends =>
      refine finished (drafts_new_open fits (.procedure _) ?_)
      rintro procedure ⟨rfl⟩
      exact new.procedure _ (opened_name reads (by decide))
  | procedureBegun reads =>
      rintro draft (opened | waits)
      · cases opened
        exact new.procedure _ (opened_name reads (by decide))
      · cases waits
  | interfaceBegun reads opened => exact drafts_new_replace fits opened _ rfl
  | interfaceEnded reads opened => exact drafts_new_replace fits opened _ rfl
  | subroutineBegun reads unknown suspends keeps =>
      rintro draft (opened | waits)
      · cases opened
      · exact fits draft (suspended_before suspends keeps waits)
  | structureEnded reads opened => exact finished fits
  | procedureEnded reads closes opened => exact finished fits
  | subroutineEnded reads opened =>
      rintro draft (resumed | waits)
      · obtain ⟨procedure, waited, same⟩ := Option.map_eq_some_iff.mp resumed
        cases same
        exact fits _ (.inr waited)
      · cases waits
  | _ => exact fits

/-- The lines of a file, in which nothing gathered earlier is opened, are read behind what was
gathered earlier as they are read alone. -/
theorem feed_lines_behind (path : String) (number : Nat) {lines : List String}
    (new : ∀ raw ∈ lines, NewTo earlier raw) (fits : DraftsNewTo earlier state) :
    feedLines path (state.behind earlier) number lines =
      (feedLines path state number lines).behind earlier := by
  induction lines generalizing state number with
  | nil => rfl
  | cons raw rest induction =>
      have first := new raw List.mem_cons_self
      have kept := drafts_new_effect (feed_line_effect state ⟨path, number⟩ raw) first fits
      rw [feed_lines_cons, feed_lines_cons, feed_line_behind first fits]
      apply induction (number + 1) _ kept
      exact fun other later => new other (List.mem_cons_of_mem _ later)

theorem begin_file_behind (earlier : Assembler) :
    earlier.beginFile = Assembler.behind {} earlier := by
  simp only [beginFile, behind, ProcedureIndex.behind, List.append_nil]

theorem feed_file_behind (path : String) {lines : List String}
    (new : ∀ raw ∈ lines, NewTo earlier raw) :
    earlier.feedFile path lines = (Assembler.feedFile {} path lines).behind earlier := by
  have nothing : DraftsNewTo earlier (beginFile {}) := by
    rintro draft (opened | waits)
    · cases opened
    · cases waits
  rw [feedFile, begin_file_behind, feedFile]
  exact feed_lines_behind path 0 new nothing

end Behind

end Assembler

theorem opened_of_written {declaration : Declaration} {operation : Operation}
    {operations : List Operation} {path : String} {lines : List String}
    (written : declaration.WrittenIn operation path lines) (listed : operation ∈ operations) :
    declaration.key ∈ openedNames operations lines := by
  obtain ⟨number, display, opened⟩ := written
  obtain ⟨raw, found, reads⟩ := opened.opener
  exact List.mem_filterMap.mpr ⟨raw, List.mem_of_getElem? found, opened_name reads listed⟩

namespace Assembler

/-- What files gather is opened in them. -/
theorem opened_of_gathered (files : List (String × List String)) :
    (∀ name ∈ (feedFiles {} files).procedures.keys,
      ∃ file ∈ files, name ∈ openedNames procedureOpenings file.2) ∧
    (∀ name ∈ (feedFiles {} files).subroutines.map Declaration.key,
      ∃ file ∈ files, name ∈ openedNames subroutineOpenings file.2) := by
  have gathered := gathered_since {} files
  constructor
  · intro name listed
    obtain ⟨entry, stored, rfl⟩ := List.mem_map.mp listed
    obtain ⟨place, held⟩ := List.getElem?_of_mem stored
    obtain ⟨_, file, member, written⟩ :=
      (gathered.procedures place entry held).resolve_left (by simp)
    refine ⟨file, member, opened_of_written written ?_⟩
    cases entry.form <;> decide
  · intro name listed
    obtain ⟨declaration, stored, rfl⟩ := List.mem_map.mp listed
    obtain ⟨_, file, member, written⟩ :=
      (gathered.subroutines declaration stored).resolve_left (by simp)
    exact ⟨file, member, opened_of_written written (by decide)⟩

theorem new_to_gathered {files : List (String × List String)} {lines : List String}
    (apart : ∀ file ∈ files, ShareNoName file.2 lines) :
    ∀ raw ∈ lines, NewTo (feedFiles {} files) raw := by
  obtain ⟨procedures, subroutines⟩ := opened_of_gathered files
  intro raw listed
  constructor
  · intro name opens known
    obtain ⟨file, member, opened⟩ := procedures name known
    exact (apart file member).procedures name opened (List.mem_filterMap.mpr ⟨raw, listed, opens⟩)
  · intro name opens known
    obtain ⟨file, member, opened⟩ := subroutines name known
    exact (apart file member).subroutines name opened (List.mem_filterMap.mpr ⟨raw, listed, opens⟩)

theorem finish_behind (state earlier : Assembler) :
    (state.behind earlier).finish = Model.concat [earlier.finish, state.finish] := by
  simp [finish, behind, Model.concat, ProcedureIndex.toList, ProcedureIndex.behind]

end Assembler

theorem Model.concat_snoc (models : List Model) (last : Model) :
    Model.concat (models ++ [last]) = Model.concat [Model.concat models, last] := by
  simp [Model.concat]

theorem assemble_apart {files : List (String × List String)}
    (apart : files.Pairwise fun file other => ShareNoName file.2 other.2) :
    assemble files = Model.concat (files.map fun file => assemble [file]) := by
  -- The names of a file are compared with those of the files before it.
  induction files using List.reverseRecOn with
  | nil => rfl
  | append_singleton earlier file induction =>
      obtain ⟨before, _, others⟩ := List.pairwise_append.mp apart
      have new := Assembler.new_to_gathered fun other listed =>
        others other listed file (List.mem_singleton_self _)
      have alone : assemble [file] = (Assembler.feedFile {} file.1 file.2).finish := rfl
      have whole : assemble (earlier ++ [file]) =
          ((Assembler.feedFiles {} earlier).feedFile file.1 file.2).finish := by
        rw [assemble, List.foldl_append]
        rfl
      rw [whole, Assembler.feed_file_behind file.1 new, Assembler.finish_behind, List.map_append,
        List.map_singleton, Model.concat_snoc, ← induction before, alone]
      rfl

/-- Where no two files open a procedure, or a subroutine, of the same name, the model of files is
made of the models of the single files, in the order of the files. In another order of the files
the same models stand in that order. -/
theorem files_compose (files : List (String × List String))
    (apart : files.Pairwise fun file other => ShareNoName file.2 other.2) :
    ∀ order, order.Perm files →
      assemble order = Model.concat (order.map fun file => assemble [file]) := by
  intro order rearranged
  apply assemble_apart
  exact (rearranged.pairwise_iff fun shared => shared.symm).mpr apart

/-- The first file ends inside a documented procedure and in an open documentation block. -/
theorem unfinished_file_composes :
    let first := ("/A", ["///", "// Title", "///", "dcl-proc P;", "begsr S;", "///"])
    let second := ("/B", ["// Text", "dcl-s x int(10);", "dcl-pr q end-pr;", "endsr;"])
    ShareNoName first.2 second.2 ∧
      (assemble [first, second]).standalones.map (fun found => (found.name, found.title)) =
        [("x", none)] ∧
      assemble [first, second] = Model.concat [assemble [first], assemble [second]] ∧
      assemble [second, first] = Model.concat [assemble [second], assemble [first]] := by
  intro first second
  have apart : ShareNoName first.2 second.2 := by
    constructor <;> decide +kernel
  have pairwise : [first, second].Pairwise fun file other => ShareNoName file.2 other.2 := by
    simpa using apart
  have composes := files_compose [first, second] pairwise
  refine ⟨apart, by decide +kernel, ?_, ?_⟩
  · exact composes [first, second] (List.Perm.refl _)
  · exact composes [second, first] (List.Perm.swap _ _ _)

end RpgSymbols
