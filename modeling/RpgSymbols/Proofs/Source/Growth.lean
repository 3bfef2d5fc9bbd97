import RpgSymbols.Proofs.Source.Effect

/-!
What every line keeps. The lists of constants, variables, structures and subroutines only grow, at
their ends.
-/

namespace RpgSymbols.Assembler

def StandsAt (files : List (String × List String)) (position : Position) (raw : String) : Prop :=
  ∃ file ∈ files, ∃ number : Nat, position = ⟨file.1, number⟩ ∧ file.2[number]? = some raw

section Standing

variable {Holds : Assembler → Prop}

theorem feed_lines_keeps_standing (path : String) (state : Assembler) (number : Nat)
    (lines : List String)
    (step : ∀ (place : Nat) raw, lines[place]? = some raw → ∀ state, Holds state →
      Holds (state.feedLine ⟨path, (number + place : Nat)⟩ raw))
    (holds : Holds state) : Holds (feedLines path state number lines) := by
  induction lines generalizing state number with
  | nil => exact holds
  | cons line rest induction =>
      rw [feed_lines_cons]
      apply induction
      · intro place raw listed
        have behind := step (place + 1) raw listed
        rwa [Nat.add_comm place, ← Nat.add_assoc] at behind
      · exact step 0 line rfl state holds

/-- What the lines of the files keep, each at its position, is kept by a run over them. -/
theorem feed_files_keeps_standing (state : Assembler) (files : List (String × List String))
    (step : ∀ state position raw, StandsAt files position raw → Holds state →
      Holds (state.feedLine position raw))
    (begins : ∀ state, Holds state → Holds state.beginFile) (holds : Holds state) :
    Holds (state.feedFiles files) := by
  induction files generalizing state with
  | nil => exact holds
  | cons file rest induction =>
      apply induction
      · intro state position raw ⟨other, listed, stands⟩
        exact step state position raw ⟨other, List.mem_cons_of_mem _ listed, stands⟩
      · apply feed_lines_keeps_standing
        · intro place raw listed state
          apply step
          exact ⟨file, List.mem_cons_self, 0 + place, rfl, by rwa [Nat.zero_add]⟩
        · exact begins state holds

end Standing

section Runs

variable {Holds : Assembler → Prop}
  (step : ∀ state position raw, Holds state → Holds (state.feedLine position raw))
include step

theorem feed_lines_keeps (path : String) (state : Assembler) (number : Nat)
    (lines : List String) (holds : Holds state) :
    Holds (feedLines path state number lines) := by
  apply feed_lines_keeps_standing
  · exact fun place raw _ state => step state _ raw
  · exact holds

theorem feed_files_keeps (begins : ∀ state, Holds state → Holds state.beginFile)
    (state : Assembler) (files : List (String × List String)) (holds : Holds state) :
    Holds (state.feedFiles files) := by
  apply feed_files_keeps_standing
  · exact fun state position raw _ => step state position raw
  · exact begins
  · exact holds

theorem at_line_keeps (begins : ∀ state, Holds state → Holds state.beginFile)
    (initial : Holds {}) (earlier : List (String × List String)) (path : String)
    (lines : List String) (number : Nat) : Holds (atLine earlier path lines number) :=
  feed_lines_keeps step path _ 0 _ (begins _ (feed_files_keeps step begins {} earlier initial))

end Runs

theorem stretch_keeps (Holds : Assembler → Prop) (earlier : List (String × List String))
    (path : String) (lines : List String) (first last : Nat) (ordered : first ≤ last)
    (bound : last ≤ lines.length) (initial : Holds (atLine earlier path lines first))
    (step : ∀ number raw, first ≤ number → number < last → lines[number]? = some raw →
      Holds (atLine earlier path lines number) →
      Holds ((atLine earlier path lines number).feedLine ⟨path, number⟩ raw)) :
    Holds (atLine earlier path lines last) := by
  induction ordered with
  | refl => exact initial
  | @step last ordered induction =>
      have before : Holds (atLine earlier path lines last) := by
        apply induction (Nat.le_of_succ_le bound)
        intro number raw lower upper
        exact step number raw lower (Nat.lt_succ_of_lt upper)
      have written : lines[last]? = some lines[last] := List.getElem?_eq_getElem bound
      rw [at_line_succ written]
      exact step last _ ordered (Nat.lt_succ_self last) written before

/-- The later state holds everything that was gathered before, in the same places. -/
structure Extends (before later : Assembler) : Prop where
  constants : before.constants <+: later.constants
  standalones : before.standalones <+: later.standalones
  structures : before.structures <+: later.structures
  subroutines : before.subroutines <+: later.subroutines

namespace Extends

theorem refl (state : Assembler) : Extends state state :=
  ⟨List.prefix_rfl, List.prefix_rfl, List.prefix_rfl, List.prefix_rfl⟩

theorem trans {first second third : Assembler} (left : Extends first second)
    (right : Extends second third) : Extends first third :=
  ⟨left.constants.trans right.constants, left.standalones.trans right.standalones,
    left.structures.trans right.structures, left.subroutines.trans right.subroutines⟩

end Extends

theorem open_draft_extends (state : Assembler) (draft : Draft) :
    Extends state (state.openDraft draft) := by
  constructor <;> exact List.prefix_rfl

theorem finalize_extends (state : Assembler) : Extends state state.finalize := by
  cases opened : state.current with
  | none => constructor <;> simp [finalize, opened, consumeDocs]
  | some draft => cases draft <;> constructor <;> simp [finalize, opened, consumeDocs]

theorem effect_extends {state next : Assembler} {position : Position} {raw : String}
    (effect : Effect state position raw next) : Extends state next := by
  have kept := Extends.refl state
  cases effect with
  | constant reads vacant => exact { kept with constants := List.prefix_append _ _ }
  | standalone reads vacant plain => exact { kept with standalones := List.prefix_append _ _ }
  | structureLine reads vacant plain ends =>
      exact (open_draft_extends state _).trans (finalize_extends _)
  | prototypeLine reads vacant new ends =>
      exact (open_draft_extends state _).trans (finalize_extends _)
  | structureEnded reads opened => exact finalize_extends state
  | procedureEnded reads closes opened => exact finalize_extends state
  | subroutineEnded reads opened =>
      have grown := finalize_extends state
      exact ⟨grown.1, grown.2, grown.3, grown.4⟩
  | _ => exact ⟨kept.1, kept.2, kept.3, kept.4⟩

theorem feed_line_extends (state : Assembler) (position : Position) (raw : String) :
    Extends state (state.feedLine position raw) :=
  effect_extends (feed_line_effect state position raw)

theorem at_line_extends (earlier : List (String × List String)) (path : String)
    (lines : List String) (first last : Nat) (ordered : first ≤ last)
    (bound : last ≤ lines.length) :
    Extends (atLine earlier path lines first) (atLine earlier path lines last) := by
  apply stretch_keeps (Extends (atLine earlier path lines first)) earlier path lines first last
    ordered bound (Extends.refl _)
  intro number raw _ _ _ kept
  exact kept.trans (feed_line_extends _ _ _)

/-- The lists that only grow hold declarations of their own kinds. -/
structure Kinded (state : Assembler) : Prop where
  constants : ∀ declaration ∈ state.constants, declaration.kind = .constant
  standalones : ∀ declaration ∈ state.standalones, declaration.kind = .standalone
  structures : ∀ declaration ∈ state.structures, declaration.kind = .dataStructure
  subroutines : ∀ declaration ∈ state.subroutines, declaration.kind = .subroutine

theorem forall_mem_concat {Value : Type} {property : Value → Prop} {values : List Value}
    {added : Value} (old : ∀ value ∈ values, property value) (new : property added) :
    ∀ value ∈ values ++ [added], property value := by
  intro value member
  rcases List.mem_append.mp member with before | last
  · exact old value before
  · rw [List.mem_singleton.mp last]
    exact new

end RpgSymbols.Assembler
