import RpgSymbols.Proofs.Source.Consistency

/-!
What one line may do to the five collections: nothing, one more element at the end of one of them,
or a definition in the place of the procedure of its name. So what was gathered stays in its place,
and a procedure there changes only for a definition of the same name.
-/

namespace RpgSymbols

open Text

/-- The five collections of an assembler. Procedures come with the form of their record. -/
structure Collections where
  constants : List Declaration
  standalones : List Declaration
  structures : List Declaration
  procedures : List IndexedProcedure
  subroutines : List Declaration

def Assembler.collections (state : Assembler) : Collections :=
  ⟨state.constants, state.standalones, state.structures, state.procedures.entries,
    state.subroutines⟩

namespace Collections

/-- The second collections are the first, with one element more, or with one procedure redefined. -/
inductive Step (before : Collections) : Collections → Prop
  | unchanged : Step before before
  | constant (added : Declaration) :
      Step before { before with constants := before.constants ++ [added] }
  | standalone (added : Declaration) :
      Step before { before with standalones := before.standalones ++ [added] }
  | dataStructure (added : Declaration) :
      Step before { before with structures := before.structures ++ [added] }
  | procedure (added : IndexedProcedure) :
      Step before { before with procedures := before.procedures ++ [added] }
  | redefined (place : Nat) (old new : IndexedProcedure)
      (held : before.procedures[place]? = some old) (same : new.key = old.key)
      (defines : new.form = .definition) :
      Step before { before with procedures := before.procedures.set place new }
  | subroutine (added : Declaration) :
      Step before { before with subroutines := before.subroutines ++ [added] }

end Collections

namespace ProcedureIndex

/-- Where names are different, a definition takes over one place. -/
theorem add_definition_at {index : ProcedureIndex} {declaration : Declaration} {place : Nat}
    {old : IndexedProcedure} (distinct : index.keys.Nodup)
    (held : index.entries[place]? = some old) (same : old.key = upper declaration.name) :
    index.add declaration .definition =
      ⟨index.entries.set place ⟨declaration, .definition⟩⟩ := by
  have known : upper declaration.name ∈ index.keys :=
    List.mem_map.mpr ⟨old, List.mem_of_getElem? held, same⟩
  rw [add_definition known]
  congr 1
  apply List.ext_getElem?
  intro other
  rw [List.getElem?_map, List.getElem?_set]
  by_cases here : place = other
  · subst here
    obtain ⟨bound, _⟩ := List.getElem?_eq_some_iff.mp held
    rw [if_pos rfl, if_pos bound, held, Option.map_some, if_pos same]
  · rw [if_neg here]
    cases found : index.entries[other]? with
    | none => rfl
    | some entry =>
        have differs : entry.key ≠ upper declaration.name := by
          intro again
          have first : index.keys[place]? = some (upper declaration.name) := by
            rw [keys, List.getElem?_map, held, Option.map_some, same]
          have second : index.keys[other]? = some (upper declaration.name) := by
            rw [keys, List.getElem?_map, found, Option.map_some, again]
          obtain ⟨bound, _⟩ := List.getElem?_eq_some_iff.mp first
          exact here ((List.getElem?_inj bound distinct).mp (first.trans second.symm))
        rw [Option.map_some, if_neg differs]

end ProcedureIndex

namespace Collections

theorem step_add {before : Collections} {index : ProcedureIndex}
    (stored : before.procedures = index.entries) (distinct : index.keys.Nodup)
    (declaration : Declaration) (form : ProcedureForm) :
    Step before { before with procedures := (index.add declaration form).entries } := by
  by_cases known : upper declaration.name ∈ index.keys
  · cases form with
    | prototype =>
        rw [ProcedureIndex.add_prototype known, ← stored]
        exact .unchanged
    | definition =>
        obtain ⟨old, listed, same⟩ := List.mem_map.mp known
        obtain ⟨place, held⟩ := List.getElem?_of_mem listed
        rw [ProcedureIndex.add_definition_at distinct held same]
        rw [← stored] at held ⊢
        exact .redefined place old _ held same.symm rfl
  · rw [ProcedureIndex.add_new known, ← stored]
    exact .procedure _

end Collections

namespace Assembler

theorem step_finalize (state : Assembler) (distinct : state.procedures.keys.Nodup) :
    Collections.Step state.collections state.finalize.collections := by
  cases opened : state.current with
  | none =>
      simp only [finalize, opened]
      exact .unchanged
  | some draft =>
      cases draft with
      | dataStructure heading =>
          simp only [finalize, opened]
          exact .dataStructure _
      | procedure draft =>
          simp only [finalize, opened]
          exact Collections.step_add rfl distinct draft.finish draft.form
      | subroutine heading =>
          simp only [finalize, opened]
          exact .subroutine _

theorem step_effect {state next : Assembler} {position : Position} {raw : String}
    (effect : Effect state position raw next) (distinct : state.procedures.keys.Nodup) :
    Collections.Step state.collections next.collections := by
  have stays (docs : DocumentationTracker) :
      Collections.Step state.collections { state with docs := docs }.collections := .unchanged
  cases effect with
  | comment inert worded active => exact stays _
  | constant reads vacant => exact .constant _
  | standalone reads vacant plain => exact .standalone _
  | structureLine reads vacant plain ends => exact step_finalize (state.openDraft _) distinct
  | prototypeLine reads vacant new ends => exact step_finalize (state.openDraft _) distinct
  | structureEnded reads opened => exact step_finalize state distinct
  | procedureEnded reads closes opened => exact step_finalize state distinct
  | subroutineEnded reads opened => exact step_finalize state distinct
  | _ => exact .unchanged

theorem Consistent.distinct {state : Assembler} (consistent : Consistent state) :
    state.procedures.keys.Nodup := by
  rw [← ProcedureIndex.keys_to_list]
  exact consistent.procedures

end Assembler

/-- A place keeps its procedure, or has a definition of the same name instead. -/
theorem Collections.Step.entry_kept {before later : Collections} (step : Step before later)
    {place : Nat} {old : IndexedProcedure} (held : before.procedures[place]? = some old) :
    ∃ new, later.procedures[place]? = some new ∧ new.key = old.key ∧
      (new = old ∨ new.form = .definition) := by
  obtain ⟨bound, _⟩ := List.getElem?_eq_some_iff.mp held
  cases step with
  | procedure added =>
      exact ⟨old, (List.getElem?_append_left bound).trans held, rfl, .inl rfl⟩
  | redefined other replaced new found same defines =>
      by_cases here : other = place
      · subst here
        cases found.symm.trans held
        exact ⟨new, List.getElem?_set_self bound, same, .inr defines⟩
      · exact ⟨old, (List.getElem?_set_ne here).trans held, rfl, .inl rfl⟩
  | _ => exact ⟨old, held, rfl, .inl rfl⟩

namespace Assembler

/-- Everything that was gathered is still in its place, but for procedures that were redefined. -/
structure Retained (before later : Assembler) : Prop extends Extends before later where
  procedures : ∀ (place : Nat) (old : IndexedProcedure),
    before.procedures.entries[place]? = some old →
    ∃ new, later.procedures.entries[place]? = some new ∧ new.key = old.key ∧
      (new = old ∨ new.form = .definition)

theorem Retained.refl (state : Assembler) : Retained state state :=
  ⟨Extends.refl state, fun _ old held => ⟨old, held, rfl, .inl rfl⟩⟩

theorem Retained.trans {first second third : Assembler} (left : Retained first second)
    (right : Retained second third) : Retained first third := by
  refine ⟨left.toExtends.trans right.toExtends, ?_⟩
  intro place old held
  obtain ⟨middle, there, named, kept⟩ := left.procedures place old held
  obtain ⟨new, here, renamed, keptAgain⟩ := right.procedures place middle there
  refine ⟨new, here, renamed.trans named, ?_⟩
  rcases keptAgain with rfl | defines
  · exact kept
  · exact .inr defines

theorem retained_effect {state next : Assembler} {position : Position} {raw : String}
    (effect : Effect state position raw next) (consistent : Consistent state) :
    Retained state next := by
  have step := step_effect effect consistent.distinct
  exact ⟨effect_extends effect, fun _ _ held => step.entry_kept held⟩

theorem retained_feed_files {state : Assembler} (consistent : Consistent state)
    (files : List (String × List String)) : Retained state (state.feedFiles files) := by
  have step : ∀ now position raw, Consistent now ∧ Retained state now →
      Consistent (now.feedLine position raw) ∧ Retained state (now.feedLine position raw) := by
    rintro now position raw ⟨fits, retained⟩
    have effect := feed_line_effect now position raw
    exact ⟨consistent_effect effect fits, retained.trans (retained_effect effect fits)⟩
  have begins : ∀ now, Consistent now ∧ Retained state now →
      Consistent now.beginFile ∧ Retained state now.beginFile := by
    rintro now ⟨fits, retained⟩
    have grown := retained.toExtends
    exact ⟨consistent_begin_file now fits, ⟨grown.1, grown.2, grown.3, grown.4⟩,
      retained.procedures⟩
  exact (feed_files_keeps step begins state files ⟨consistent, .refl state⟩).2

end Assembler

end RpgSymbols
