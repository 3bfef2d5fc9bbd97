import RpgSymbols.Proofs.Source.Growth
import RpgSymbols.Proofs.Source.Storing
import RpgSymbols.Proofs.Text.CaseCutting

/-!
The case of the source does not matter. Operations, keywords and names are looked at in upper case
alone, so a run over lines in upper case stays in step with the run over the lines themselves. The
two differ in how names and keywords are shown and in what documentation says.
-/

namespace RpgSymbols

open Text

/-! A line in upper case reads as the line does. -/

def Statement.inUpperCase (statement : Statement) : Statement :=
  ⟨upper statement.line, upper statement.first, statement.others.map upper⟩

theorem of_line_upper (raw : String) :
    Statement.ofLine? (upper raw) = (Statement.ofLine? raw).map Statement.inUpperCase := by
  have same : displayWords (trim (upper raw)) = (displayWords (trim raw)).map upper := by
    rw [displayWords, displayWords, trim_upper, before_upper (by decide), words_upper]
  unfold Statement.ofLine?
  dsimp only
  rw [same, trim_upper]
  cases displayWords (trim raw) <;> rfl

theorem instruction_upper (raw : String) :
    instruction? (upper raw) =
      (instruction? raw).map fun read => (read.1, read.2.map upper) := by
  rw [instruction?, instruction?, of_line_upper]
  cases Statement.ofLine? raw with
  | none => rfl
  | some statement =>
      have same : statement.inUpperCase.operation? = statement.operation? := by
        rw [Statement.operation?, Statement.inUpperCase, upper_upper, Statement.operation?]
      rw [Option.map_some, Option.bind_some, Option.bind_some, same, Option.map_map]
      rfl

theorem inert_upper {raw : String} (inert : Inert raw) : Inert (upper raw) := by
  rw [Inert, instruction_upper, inert, Option.map_none]

/-- A slash begins the image of no other letter. -/
theorem after_marker_upper (chars : List Char) :
    afterMarker? (chars.flatMap upperChar) =
      (afterMarker? chars).map (List.flatMap upperChar) := by
  have slash : upperChar '/' = ['/'] := by decide +kernel
  have other : ∀ c, c ≠ '/' →
      ∃ letter letters, upperChar c = letter :: letters ∧ letter ≠ '/' := by
    intro c differs
    obtain ⟨letter, letters, spelled⟩ := List.exists_cons_of_ne_nil (upper_char_ne_nil c)
    refine ⟨letter, letters, spelled, ?_⟩
    rintro rfl
    exact differs (slash_of_upper_char (spelled ▸ List.mem_cons_self))
  cases chars with
  | nil => rfl
  | cons first rest =>
      by_cases begins : first = '/'
      · subst begins
        rw [List.flatMap_cons, slash]
        cases rest with
        | nil => rfl
        | cons second rest =>
            by_cases marks : second = '/'
            · subst marks
              rw [List.flatMap_cons, slash]
              rfl
            · obtain ⟨letter, letters, spelled, differs⟩ := other second marks
              rw [List.flatMap_cons, spelled]
              simp [afterMarker?, marks, differs]
      · obtain ⟨letter, letters, spelled, differs⟩ := other first begins
        rw [List.flatMap_cons, spelled]
        simp [afterMarker?, begins, differs]

theorem comment_upper (raw : String) : comment? (upper raw) = (comment? raw).map upper := by
  rw [comment?, comment?, of_line_upper]
  cases Statement.ofLine? raw with
  | none => rfl
  | some statement =>
      rw [Option.map_some, Option.bind_some, Option.bind_some, Statement.inUpperCase,
        to_list_upper, after_marker_upper, Option.map_map, Option.map_map]
      simp only [Function.comp_def, upper_of_list]

theorem parameter_line_upper (raw : String) :
    parameterLine? (upper raw) = (parameterLine? raw).map (List.map upper) := by
  rw [parameterLine?, parameterLine?, of_line_upper]
  cases Statement.ofLine? raw with
  | none => rfl
  | some statement =>
      rw [Option.map_some, Option.bind_some, Option.bind_some, Statement.inUpperCase,
        to_list_upper, after_marker_upper, Option.isSome_map, upper_upper]
      split
      · rfl
      · simp only [ProcedureDraft.parameterWords, upper_upper, Option.map_some]
        split <;> rfl

/-! What a declaration, a draft and a state say in any case. -/

/-- Kind, name, keywords and place, the name in upper case. -/
def Declaration.bare (declaration : Declaration) : Declaration where
  kind := declaration.kind
  name := upper declaration.name
  keywords := declaration.keywords
  position := declaration.position

/-- A declaration without what depends on the case of its source: how its name and its keywords are
shown, and its documentation. -/
def Declaration.caseless (declaration : Declaration) : Declaration :=
  { declaration.bare with subItems := declaration.subItems.map Declaration.bare }

def Model.caseless (model : Model) : Model where
  constants := model.constants.map Declaration.caseless
  standalones := model.standalones.map Declaration.caseless
  structures := model.structures.map Declaration.caseless
  procedures := model.procedures.map Declaration.caseless
  subroutines := model.subroutines.map Declaration.caseless

def Heading.caseless (heading : Heading) : Heading :=
  ⟨upper heading.name, [], heading.keywords, {}, heading.position⟩

def ProcedureDraft.caseless (draft : ProcedureDraft) : ProcedureDraft :=
  ⟨draft.heading.caseless, draft.form, draft.reading, draft.parameters.map Declaration.bare⟩

def Draft.caseless : Draft → Draft
  | .dataStructure heading => .dataStructure heading.caseless
  | .procedure draft => .procedure draft.caseless
  | .subroutine heading => .subroutine heading.caseless

def IndexedProcedure.caseless (entry : IndexedProcedure) : IndexedProcedure :=
  ⟨entry.declaration.caseless, entry.form⟩

def ProcedureIndex.caseless (index : ProcedureIndex) : ProcedureIndex :=
  ⟨index.entries.map IndexedProcedure.caseless⟩

theorem IndexedProcedure.key_caseless (entry : IndexedProcedure) :
    entry.caseless.key = entry.key :=
  upper_upper _

namespace ProcedureIndex

theorem keys_caseless (index : ProcedureIndex) : index.caseless.keys = index.keys := by
  simp only [keys, caseless, List.map_map, Function.comp_def, IndexedProcedure.key_caseless]

theorem contains_caseless (index : ProcedureIndex) (name : String) :
    index.caseless.contains name = index.contains name := by
  rw [Bool.eq_iff_iff, contains_iff, contains_iff, keys_caseless]

theorem add_caseless (index : ProcedureIndex) (declaration : Declaration) (form : ProcedureForm) :
    index.caseless.add declaration.caseless form = (index.add declaration form).caseless := by
  have named : upper declaration.caseless.name = upper declaration.name := upper_upper _
  by_cases known : upper declaration.name ∈ index.keys
  · have there : upper declaration.caseless.name ∈ index.caseless.keys := by
      rw [named, keys_caseless]
      exact known
    cases form with
    | prototype => rw [add_prototype known, add_prototype there]
    | definition =>
        rw [add_definition known, add_definition there, named]
        simp only [caseless, List.map_map, Function.comp_def, IndexedProcedure.key_caseless]
        refine congrArg ProcedureIndex.mk (List.map_congr_left ?_)
        intro entry _
        split <;> rfl
  · have absent : upper declaration.caseless.name ∉ index.caseless.keys := by
      rw [named, keys_caseless]
      exact known
    rw [add_new known, add_new absent]
    simp only [caseless, List.map_append, List.map_singleton, IndexedProcedure.caseless]

end ProcedureIndex

theorem map_upper_upper (words : List String) : (words.map upper).map upper = words.map upper := by
  simp only [List.map_map, Function.comp_def, upper_upper]

theorem Heading.of_upper (name : String) (display : List String) (docs other : Documentation)
    (position : Position) :
    (Heading.of name display docs position).caseless =
      (Heading.of (upper name) (display.map upper) other position).caseless := by
  simp only [Heading.caseless, Heading.of, upper_upper, List.map_map, Function.comp_def]

theorem Heading.keywords_of (name : String) (display : List String) (docs : Documentation)
    (position : Position) :
    (Heading.of name display docs position).keywords = display.map upper := rfl

theorem Heading.declare_alike {heading twin : Heading} (same : heading.caseless = twin.caseless)
    (kind : Kind) : (heading.declare kind []).caseless = (twin.declare kind []).caseless :=
  congrArg (Heading.declare · kind []) same

namespace ProcedureDraft

theorem begin_alike {heading twin : Heading} (same : heading.caseless = twin.caseless)
    (form : ProcedureForm) (reading : Bool) :
    (mk heading form reading []).caseless = (mk twin form reading []).caseless :=
  congrArg (mk · form reading []) same

theorem finish_caseless (draft : ProcedureDraft) :
    draft.finish.caseless = draft.caseless.finish := rfl

section Alike

variable {draft twin : ProcedureDraft} (same : draft.caseless = twin.caseless)
include same

theorem stop_alike :
    { draft with reading := false }.caseless = { twin with reading := false }.caseless :=
  congrArg (fun found : ProcedureDraft => { found with reading := false }) same

theorem interface_upper (display : List String) (oneLine : Bool) :
    (draft.beginInterface display oneLine).caseless =
      (twin.beginInterface (display.map upper) oneLine).caseless := by
  obtain ⟨headings, form, -, parameters⟩ := mk.inj same
  obtain ⟨name, -, -, -, position⟩ := Heading.mk.inj headings
  simp only [caseless, beginInterface, Heading.caseless, name, position, form, parameters,
    List.filter_map, map_upper_upper, Function.comp_def, upper_upper]

/-- The count of the parameters names one that has no name, and it is the same. -/
theorem parameter_upper (words : List String) (position : Position) :
    (draft.parameter? words position).toList.map Declaration.bare =
      (twin.parameter? (words.map upper) position).toList.map Declaration.bare := by
  have counted : draft.parameters.length = twin.parameters.length := by
    have lengths := congrArg (fun found => found.parameters.length) same
    simpa only [caseless, List.length_map] using lengths
  cases words with
  | nil => rfl
  | cons first display =>
      simp only [parameter?, List.map_cons, Option.toList_some, List.map_nil, Declaration.bare,
        upper_upper, map_upper_upper, counted]
      split
      · rfl
      · rw [upper_upper]

theorem add_parameter_upper (words : List String) (position : Position) :
    (draft.addParameter words position).caseless =
      (twin.addParameter (words.map upper) position).caseless := by
  have added := parameter_upper same words position
  obtain ⟨headings, form, reading, parameters⟩ := mk.inj same
  simp only [caseless, addParameter, headings, form, reading, List.map_append, parameters, added]

end Alike

end ProcedureDraft

theorem Declaration.is_named_caseless (declaration : Declaration) (word : String) :
    declaration.caseless.isNamed word = declaration.isNamed word := by
  rw [isNamed, isNamed, caseless, bare, upper_upper]

theorem Draft.structure_alike {heading twin : Heading} (same : heading.caseless = twin.caseless) :
    (Draft.dataStructure heading).caseless = (Draft.dataStructure twin).caseless :=
  congrArg Draft.dataStructure same

theorem Draft.procedure_alike {draft twin : ProcedureDraft}
    (same : draft.caseless = twin.caseless) :
    (Draft.procedure draft).caseless = (Draft.procedure twin).caseless :=
  congrArg Draft.procedure same

theorem Draft.subroutine_alike {heading twin : Heading} (same : heading.caseless = twin.caseless) :
    (Draft.subroutine heading).caseless = (Draft.subroutine twin).caseless :=
  congrArg Draft.subroutine same

theorem caseless_concat {declarations others : List Declaration} {declaration other : Declaration}
    (lists : declarations.map Declaration.caseless = others.map Declaration.caseless)
    (last : declaration.caseless = other.caseless) :
    (declarations ++ [declaration]).map Declaration.caseless =
      (others ++ [other]).map Declaration.caseless := by
  rw [List.map_append, List.map_append, lists, List.map_singleton, List.map_singleton, last]

theorem DocumentationTracker.feed_active (docs : DocumentationTracker) (text : String) :
    (docs.feed text).active = docs.active := by
  unfold feed
  dsimp only
  split
  · rfl
  · rfl
  · split
    · rfl
    · split <;> rfl

namespace Assembler

/-- Two states that differ in what depends on the case of the source alone. Of the documentation it
matters only whether a block is open. -/
structure Alike (state other : Assembler) : Prop where
  active : state.docs.active = other.docs.active
  current : state.current.map Draft.caseless = other.current.map Draft.caseless
  suspended : state.suspended.map ProcedureDraft.caseless =
    other.suspended.map ProcedureDraft.caseless
  constants : state.constants.map Declaration.caseless = other.constants.map Declaration.caseless
  standalones : state.standalones.map Declaration.caseless =
    other.standalones.map Declaration.caseless
  structures : state.structures.map Declaration.caseless =
    other.structures.map Declaration.caseless
  procedures : state.procedures.caseless = other.procedures.caseless
  subroutines : state.subroutines.map Declaration.caseless =
    other.subroutines.map Declaration.caseless

theorem Alike.ite {condition : Prop} [Decidable condition] {first second third fourth : Assembler}
    (yes : Alike first second) (no : Alike third fourth) :
    Alike (if condition then first else third) (if condition then second else fourth) := by
  split
  · exact yes
  · exact no

section Alike

variable {state other : Assembler} (alike : Alike state other)
include alike

theorem finish_alike : state.finish.caseless = other.finish.caseless := by
  have listed : ∀ index : ProcedureIndex,
      index.toList.map Declaration.caseless =
        index.caseless.entries.map IndexedProcedure.declaration := by
    intro index
    simp only [ProcedureIndex.toList, ProcedureIndex.caseless, List.map_map, Function.comp_def,
      IndexedProcedure.caseless]
  simp only [Model.caseless, finish, alike.constants, alike.standalones, alike.structures,
    alike.subroutines, listed, alike.procedures]

/-- Drafts of the same form are open, or none is. -/
theorem open_cases :
    (state.current = none ∧ other.current = none) ∨
    (∃ heading twin, state.current = some (.dataStructure heading) ∧
      other.current = some (.dataStructure twin) ∧ heading.caseless = twin.caseless) ∨
    (∃ draft twin, state.current = some (.procedure draft) ∧
      other.current = some (.procedure twin) ∧ draft.caseless = twin.caseless) ∨
    (∃ heading twin, state.current = some (.subroutine heading) ∧
      other.current = some (.subroutine twin) ∧ heading.caseless = twin.caseless) := by
  have same := alike.current
  cases opened : state.current with
  | none =>
      rw [opened, Option.map_none] at same
      exact .inl ⟨rfl, Option.map_eq_none_iff.mp same.symm⟩
  | some draft =>
      rw [opened, Option.map_some] at same
      obtain ⟨twin, found, agrees⟩ := Option.map_eq_some_iff.mp same.symm
      cases draft <;> cases twin <;> simp_all [Draft.caseless]

theorem finalize_alike : Alike state.finalize other.finalize := by
  rcases open_cases alike with ⟨vacant, twin⟩ | ⟨heading, twin, opened, found, same⟩ |
    ⟨draft, twin, opened, found, same⟩ | ⟨heading, twin, opened, found, same⟩
  · simp only [finalize, vacant, twin]
    exact { alike with current := rfl }
  · have stored := caseless_concat alike.structures (Heading.declare_alike same .dataStructure)
    simp only [finalize, opened, found]
    exact { alike with current := rfl, structures := stored }
  · simp only [finalize, opened, found]
    have form : draft.form = twin.form := (ProcedureDraft.mk.inj same).2.1
    have stored : (state.procedures.add draft.finish draft.form).caseless =
        (other.procedures.add twin.finish twin.form).caseless := by
      rw [← ProcedureIndex.add_caseless, ← ProcedureIndex.add_caseless, alike.procedures,
        ProcedureDraft.finish_caseless, ProcedureDraft.finish_caseless, same, form]
    exact { alike with current := rfl, procedures := stored }
  · have stored := caseless_concat alike.subroutines (Heading.declare_alike same .subroutine)
    simp only [finalize, opened, found]
    exact { alike with current := rfl, subroutines := stored }

theorem open_alike {draft twin : Draft} (same : draft.caseless = twin.caseless) :
    Alike (state.openDraft draft) (other.openDraft twin) :=
  { alike with current := congrArg some same }

theorem vacant_or_open :
    (state.current = none ∧ other.current = none) ∨
      ∃ draft twin, state.current = some draft ∧ other.current = some twin := by
  rcases open_cases alike with vacant | ⟨_, _, opened, found, _⟩ | ⟨_, _, opened, found, _⟩ |
    ⟨_, _, opened, found, _⟩
  · exact .inl vacant
  all_goals exact .inr ⟨_, _, opened, found⟩

theorem consume_alike : Alike state.consumeDocs other.consumeDocs := { alike with }

variable (others : List String) (position : Position)

theorem constant_alike :
    Alike (state.onConstant others position) (other.onConstant (others.map upper) position) := by
  rcases vacant_or_open alike with ⟨vacant, found⟩ | ⟨draft, twin, opened, found⟩
  · cases others with
    | nil => simpa only [onConstant, List.map_nil, vacant, found] using alike
    | cons name display =>
        have declared := Heading.declare_alike (Heading.of_upper name display state.docs.snapshot
          other.docs.snapshot position) .constant
        simp only [onConstant, List.map_cons, vacant, found]
        exact { alike with current := rfl, constants := caseless_concat alike.constants declared }
  · simpa only [onConstant, opened, found] using alike

theorem standalone_alike :
    Alike (state.onStandalone others position)
      (other.onStandalone (others.map upper) position) := by
  rcases vacant_or_open alike with ⟨vacant, found⟩ | ⟨draft, twin, opened, found⟩
  · cases others with
    | nil => simpa only [onStandalone, List.map_nil, vacant, found] using alike
    | cons name display =>
        have declared := Heading.declare_alike (Heading.of_upper name display state.docs.snapshot
          other.docs.snapshot position) .standalone
        simp only [onStandalone, List.map_cons, vacant, found, Heading.keywords_of,
          map_upper_upper]
        refine .ite (consume_alike alike) ?_
        exact { alike with
          current := rfl, standalones := caseless_concat alike.standalones declared }
  · simpa only [onStandalone, opened, found] using alike

theorem open_structure_alike :
    Alike (state.onOpenStructure others position)
      (other.onOpenStructure (others.map upper) position) := by
  rcases vacant_or_open alike with ⟨vacant, found⟩ | ⟨draft, twin, opened, found⟩
  · cases others with
    | nil => simpa only [onOpenStructure, List.map_nil, vacant, found] using alike
    | cons name display =>
        have drafts := open_alike alike (Draft.structure_alike (Heading.of_upper name display
          state.docs.snapshot other.docs.snapshot position))
        simp only [onOpenStructure, List.map_cons, vacant, found, Heading.keywords_of,
          map_upper_upper]
        exact .ite (consume_alike alike) (.ite (finalize_alike drafts) drafts)
  · simpa only [onOpenStructure, opened, found] using alike

theorem close_structure_alike : Alike state.onCloseStructure other.onCloseStructure := by
  rcases open_cases alike with ⟨vacant, found⟩ | ⟨_, _, opened, found, _⟩ |
    ⟨_, _, opened, found, _⟩ | ⟨_, _, opened, found, _⟩
  · simpa only [onCloseStructure, vacant, found] using alike
  · simpa only [onCloseStructure, opened, found] using finalize_alike alike
  all_goals simpa only [onCloseStructure, opened, found] using alike

theorem open_prototype_alike :
    Alike (state.onOpenPrototype others position)
      (other.onOpenPrototype (others.map upper) position) := by
  rcases vacant_or_open alike with ⟨vacant, found⟩ | ⟨draft, twin, opened, found⟩
  · cases others with
    | nil => simpa only [onOpenPrototype, List.map_nil, vacant, found] using alike
    | cons name display =>
        have known : other.procedures.contains (upper name) =
            state.procedures.contains (upper name) := by
          rw [← ProcedureIndex.contains_caseless, ← alike.procedures,
            ProcedureIndex.contains_caseless]
        have headings := Heading.of_upper name display state.docs.snapshot other.docs.snapshot
          position
        have drafts := open_alike alike (Draft.procedure_alike
          (ProcedureDraft.begin_alike headings .prototype true))
        simp only [onOpenPrototype, List.map_cons, vacant, found, upper_upper, known,
          Heading.keywords_of, map_upper_upper]
        exact .ite alike (.ite (finalize_alike drafts) drafts)
  · simpa only [onOpenPrototype, opened, found] using alike

theorem open_procedure_alike :
    Alike (state.onOpenProcedure others position)
      (other.onOpenProcedure (others.map upper) position) := by
  cases others with
  | nil => exact alike
  | cons name display =>
      have headings := Heading.of_upper name display state.docs.snapshot other.docs.snapshot
        position
      have same := ProcedureDraft.begin_alike headings .definition false
      exact { alike with suspended := rfl, current := congrArg some (Draft.procedure_alike same) }

theorem close_procedure_alike : Alike state.onCloseProcedure other.onCloseProcedure := by
  rcases open_cases alike with ⟨vacant, found⟩ | ⟨_, _, opened, found, _⟩ |
    ⟨_, _, opened, found, _⟩ | ⟨_, _, opened, found, _⟩
  · simpa only [onCloseProcedure, vacant, found] using alike
  · simpa only [onCloseProcedure, opened, found] using alike
  · simpa only [onCloseProcedure, opened, found] using finalize_alike alike
  · simpa only [onCloseProcedure, opened, found] using alike

theorem open_interface_alike :
    Alike (state.onOpenInterface others) (other.onOpenInterface (others.map upper)) := by
  rcases open_cases alike with ⟨vacant, found⟩ | ⟨_, _, opened, found, _⟩ |
    ⟨draft, twin, opened, found, same⟩ | ⟨_, _, opened, found, _⟩
  · simpa only [onOpenInterface, vacant, found] using alike
  · simpa only [onOpenInterface, opened, found] using alike
  · simp only [onOpenInterface, opened, found, ← List.map_drop, map_upper_upper]
    exact open_alike alike (Draft.procedure_alike (ProcedureDraft.interface_upper same _ _))
  · simpa only [onOpenInterface, opened, found] using alike

theorem close_interface_alike : Alike state.onCloseInterface other.onCloseInterface := by
  rcases open_cases alike with ⟨vacant, found⟩ | ⟨_, _, opened, found, _⟩ |
    ⟨draft, twin, opened, found, same⟩ | ⟨_, _, opened, found, _⟩
  · simpa only [onCloseInterface, vacant, found] using alike
  · simpa only [onCloseInterface, opened, found] using alike
  · simp only [onCloseInterface, opened, found]
    exact open_alike alike (Draft.procedure_alike (ProcedureDraft.stop_alike same))
  · simpa only [onCloseInterface, opened, found] using alike

theorem open_subroutine_alike :
    Alike (state.onOpenSubroutine others position)
      (other.onOpenSubroutine (others.map upper) position) := by
  cases others with
  | nil => exact alike
  | cons name display =>
      have known : (other.subroutines.any fun known => known.isNamed (upper name)) =
          state.subroutines.any fun known => known.isNamed (upper name) := by
        have both := congrArg (List.any · fun known => known.isNamed (upper name))
          alike.subroutines
        simpa only [List.any_map, Function.comp_def, Declaration.is_named_caseless] using both.symm
      have headings := Heading.of_upper name [] state.docs.snapshot other.docs.snapshot position
      have current := congrArg some (Draft.subroutine_alike headings)
      simp only [onOpenSubroutine, List.map_cons, upper_upper, known]
      refine .ite alike ?_
      rcases open_cases alike with ⟨vacant, found⟩ | ⟨_, _, opened, found, _⟩ |
        ⟨draft, twin, opened, found, same⟩ | ⟨_, _, opened, found, _⟩
      · simp only [vacant, found]
        exact { alike with current := current }
      · simp only [opened, found]
        exact { alike with current := current }
      · simp only [opened, found]
        exact { alike with current := current, suspended := congrArg some same }
      · simp only [opened, found]
        exact { alike with current := current }

theorem close_subroutine_alike : Alike state.onCloseSubroutine other.onCloseSubroutine := by
  rcases open_cases alike with ⟨vacant, found⟩ | ⟨_, _, opened, found, _⟩ |
    ⟨_, _, opened, found, _⟩ | ⟨_, _, opened, found, _⟩
  · simpa only [onCloseSubroutine, vacant, found] using alike
  · simpa only [onCloseSubroutine, opened, found] using alike
  · simpa only [onCloseSubroutine, opened, found] using alike
  · have finished := finalize_alike alike
    have held := finished.suspended
    simp only [onCloseSubroutine, opened, found]
    cases kept : state.finalize.suspended with
    | none =>
        rw [kept, Option.map_none] at held
        simpa only [Option.map_eq_none_iff.mp held.symm] using finished
    | some draft =>
        rw [kept, Option.map_some] at held
        obtain ⟨twin, before, same⟩ := Option.map_eq_some_iff.mp held.symm
        have current := congrArg some (Draft.procedure_alike same.symm)
        simp only [before]
        exact { finished with current := current, suspended := rfl }

theorem toggle_alike : state.docs.toggle.active = other.docs.toggle.active := by
  simp only [DocumentationTracker.toggle, alike.active]
  split <;> rfl

theorem perform_alike (operation : Operation) :
    Alike (state.perform operation others position)
      (other.perform operation (others.map upper) position) := by
  cases operation with
  | docMarker => exact { alike with active := toggle_alike alike }
  | constant => exact constant_alike alike others position
  | standalone => exact standalone_alike alike others position
  | openStructure => exact open_structure_alike alike others position
  | closeStructure => exact close_structure_alike alike
  | openPrototype => exact open_prototype_alike alike others position
  | closePrototype => exact close_procedure_alike alike
  | openProcedure => exact open_procedure_alike alike others position
  | openInterface => exact open_interface_alike alike others
  | closeInterface => exact close_interface_alike alike
  | closeProcedure => exact close_procedure_alike alike
  | openSubroutine => exact open_subroutine_alike alike others position
  | closeSubroutine => exact close_subroutine_alike alike

theorem comment_alike (text : String) :
    Alike (if state.docs.active then { state with docs := state.docs.feed text } else state)
      (if other.docs.active then { other with docs := other.docs.feed (upper text) }
        else other) := by
  rw [alike.active]
  refine .ite ?_ alike
  have active : (state.docs.feed text).active = (other.docs.feed (upper text)).active := by
    rw [DocumentationTracker.feed_active, DocumentationTracker.feed_active, alike.active]
  exact { alike with active := active }

theorem parameter_alike (words : List String) :
    Alike
      (match state.current with
        | some (.procedure draft) =>
            if draft.reading then
              { state with current := some (.procedure (draft.addParameter words position)) }
            else state
        | _ => state)
      (match other.current with
        | some (.procedure draft) =>
            if draft.reading then
              { other with
                current := some (.procedure (draft.addParameter (words.map upper) position)) }
            else other
        | _ => other) := by
  rcases open_cases alike with ⟨vacant, found⟩ | ⟨_, _, opened, found, _⟩ |
    ⟨draft, twin, opened, found, same⟩ | ⟨_, _, opened, found, _⟩
  · simpa only [vacant, found] using alike
  · simpa only [opened, found] using alike
  · have reading : draft.reading = twin.reading := (ProcedureDraft.mk.inj same).2.2.1
    simp only [opened, found, reading]
    refine .ite ?_ alike
    exact open_alike alike
      (Draft.procedure_alike (ProcedureDraft.add_parameter_upper same words position))
  · simpa only [opened, found] using alike

/-- One line: the two states stay in step. -/
theorem feed_line_alike (raw : String) :
    Alike (state.feedLine position raw) (other.feedLine position (upper raw)) := by
  cases reads : instruction? raw with
  | some read =>
      obtain ⟨operation, others⟩ := read
      have twin : instruction? (upper raw) = some (operation, others.map upper) := by
        rw [instruction_upper, reads, Option.map_some]
      rw [feed_line_of_instruction reads, feed_line_of_instruction twin]
      exact perform_alike alike others position operation
  | none =>
      have inert := inert_upper reads
      cases worded : comment? raw with
      | some text =>
          have twin : comment? (upper raw) = some (upper text) := by
            rw [comment_upper, worded, Option.map_some]
          rw [feed_line_of_comment reads worded, feed_line_of_comment inert twin]
          exact comment_alike alike text
      | none =>
          have noComment : comment? (upper raw) = none := by
            rw [comment_upper, worded, Option.map_none]
          cases named : parameterLine? raw with
          | some words =>
              have twin : parameterLine? (upper raw) = some (words.map upper) := by
                rw [parameter_line_upper, named, Option.map_some]
              rw [feed_line_of_parameter reads named, feed_line_of_parameter inert twin]
              exact parameter_alike alike position words
          | none =>
              have noParameter : parameterLine? (upper raw) = none := by
                rw [parameter_line_upper, named, Option.map_none]
              rw [feed_line_of_silence reads worded named,
                feed_line_of_silence inert noComment noParameter]
              exact alike

end Alike

theorem feed_lines_alike {state other : Assembler} (alike : Alike state other) (path : String)
    (number : Nat) (lines : List String) :
    Alike (feedLines path state number lines)
      (feedLines path other number (lines.map upper)) := by
  induction lines generalizing state other number with
  | nil => exact alike
  | cons line rest induction =>
      rw [List.map_cons, feed_lines_cons, feed_lines_cons]
      exact induction (feed_line_alike alike ⟨path, number⟩ line) (number + 1)

theorem feed_file_alike {state other : Assembler} (alike : Alike state other)
    (file : String × List String) :
    Alike (state.feedFile file.1 file.2) (other.feedFile file.1 (file.2.map upper)) := by
  have begun : Alike state.beginFile other.beginFile :=
    { alike with active := rfl, current := rfl, suspended := rfl }
  exact feed_lines_alike begun file.1 0 file.2

theorem feed_files_alike {state other : Assembler} (alike : Alike state other)
    (files : List (String × List String)) :
    Alike (state.feedFiles files)
      (other.feedFiles (files.map fun file => (file.1, file.2.map upper))) := by
  induction files generalizing state other with
  | nil => exact alike
  | cons file rest induction => exact induction (feed_file_alike alike file)

end Assembler

/-- With every line in upper case the same declarations are gathered, in the same collections and
places: they agree in kind, position, keywords, upper-case name and parameters. -/
theorem assemble_in_upper_case (files : List (String × List String)) :
    (assemble (files.map fun file => (file.1, file.2.map upper))).caseless =
      (assemble files).caseless := by
  have start : Assembler.Alike {} {} := by
    constructor <;> rfl
  exact (Assembler.finish_alike (Assembler.feed_files_alike start files)).symm

end RpgSymbols
