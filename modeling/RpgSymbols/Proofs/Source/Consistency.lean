import RpgSymbols.Proofs.Source.Growth
import RpgSymbols.Proofs.Source.Storing

/-!
What is open fits what is gathered. Whether a name is new is asked when a declaration is opened,
and the declaration is stored many lines later, so the answer has to stay right in between, also
for a procedure that a subroutine suspends. It does, in every state that lines and files lead to:
names stay different, and no procedure that is completed is ever refused by the index.
-/

namespace RpgSymbols

open Text

/-- What an assembler may be given: a line at any position, or a whole file. -/
inductive Feeding where
  | line (position : Position) (raw : String)
  | file (path : String) (lines : List String)
  deriving DecidableEq, Repr

namespace Assembler

def feed (state : Assembler) : Feeding → Assembler
  | .line position raw => state.feedLine position raw
  | .file path lines => state.feedFile path lines

def feedAll (feedings : List Feeding) : Assembler := feedings.foldl feed {}

theorem feed_all_keeps {Holds : Assembler → Prop}
    (step : ∀ state position raw, Holds state → Holds (state.feedLine position raw))
    (begins : ∀ state, Holds state → Holds state.beginFile) (initial : Holds {})
    (feedings : List Feeding) : Holds (feedAll feedings) := by
  have onward : ∀ state, Holds state → Holds (feedings.foldl feed state) := by
    induction feedings with
    | nil => exact fun _ holds => holds
    | cons feeding rest induction =>
        intro state holds
        apply induction
        cases feeding with
        | line position raw => exact step state position raw holds
        | file path lines => exact feed_lines_keeps step path _ 0 lines (begins state holds)
  exact onward {} initial

/-- The open and the suspended declaration against what was gathered. A draft that waits for its
end under a name that has to be new still finds it new. -/
structure Consistent (state : Assembler) : Prop where
  suspended : state.suspended ≠ none → ∃ heading, state.current = some (.subroutine heading)
  prototype : ∀ draft, state.current = some (.procedure draft) ∨ state.suspended = some draft →
    draft.form = .prototype → upper draft.heading.name ∉ state.procedures.keys
  subroutine : ∀ heading, state.current = some (.subroutine heading) →
    ∀ known ∈ state.subroutines, known.isNamed heading.name = false
  procedures : (state.procedures.toList.map Declaration.key).Nodup
  subroutines : (state.subroutines.map Declaration.key).Nodup

theorem Consistent.alone {state : Assembler} (consistent : Consistent state)
    (other : ∀ heading, state.current ≠ some (.subroutine heading)) : state.suspended = none := by
  by_contra suspends
  obtain ⟨heading, opened⟩ := consistent.suspended suspends
  exact other heading opened

theorem consistent_open {state : Assembler} (consistent : Consistent state)
    (suspended : Option ProcedureDraft) (draft : Draft)
    (resumes : suspended ≠ none → ∃ heading, draft = .subroutine heading)
    (prototype : ∀ procedure, draft = .procedure procedure ∨ suspended = some procedure →
      procedure.form = .prototype → upper procedure.heading.name ∉ state.procedures.keys)
    (new : ∀ heading, draft = .subroutine heading →
      ∀ known ∈ state.subroutines, known.isNamed heading.name = false) :
    Consistent (openDraft { state with suspended := suspended } draft) := by
  constructor
  · intro waits
    obtain ⟨heading, same⟩ := resumes waits
    exact ⟨heading, congrArg some same⟩
  · intro procedure opened
    exact prototype procedure (opened.imp Option.some.inj id)
  · intro heading opened
    exact new heading (Option.some.inj opened)
  · exact consistent.procedures
  · exact consistent.subroutines

/-- What an interface or a parameter changes in the open procedure is neither name nor form. -/
theorem consistent_replace {state : Assembler} (consistent : Consistent state)
    (before after : ProcedureDraft) (opened : state.current = some (.procedure before))
    (name : after.heading.name = before.heading.name) (form : after.form = before.form) :
    Consistent { state with current := some (.procedure after) } := by
  have alone : state.suspended = none := consistent.alone (by simp [opened])
  apply consistent_open consistent state.suspended (.procedure after)
  · intro waits
    exact absurd alone waits
  · rintro procedure (same | waits) prototype
    · cases same
      rw [name]
      exact consistent.prototype before (.inl opened) (form ▸ prototype)
    · exact consistent.prototype procedure (.inr waits) prototype
  · intro heading same
    cases same

/-- Completing what is open keeps the stored names different. -/
theorem finalize_distinct {state : Assembler} (consistent : Consistent state) :
    (state.finalize.procedures.toList.map Declaration.key).Nodup ∧
      (state.finalize.subroutines.map Declaration.key).Nodup := by
  have procedures := consistent.procedures
  have subroutines := consistent.subroutines
  cases opened : state.current with
  | none =>
      simp only [finalize, opened]
      exact ⟨procedures, subroutines⟩
  | some draft =>
      cases draft with
      | dataStructure heading =>
          simp only [finalize, opened]
          exact ⟨procedures, subroutines⟩
      | procedure draft =>
          simp only [finalize, opened]
          refine ⟨?_, subroutines⟩
          simp only [consumeDocs, ProcedureIndex.keys_to_list] at procedures ⊢
          exact ProcedureIndex.keys_add_nodup _ _ _ procedures
      | subroutine heading =>
          simp only [finalize, opened]
          refine ⟨procedures, ?_⟩
          have new : upper heading.name ∉ state.subroutines.map Declaration.key := by
            intro listed
            obtain ⟨known, stored, same⟩ := List.mem_map.mp listed
            have differs := consistent.subroutine heading opened known stored
            rw [Declaration.isNamed, beq_eq_false_iff_ne] at differs
            exact differs same
          simp only [consumeDocs, List.map_append, List.map_singleton]
          rw [← List.concat_eq_append]
          exact List.Nodup.concat new subroutines

theorem consistent_finalize {state : Assembler} (consistent : Consistent state)
    (other : ∀ heading, state.current ≠ some (.subroutine heading)) :
    Consistent state.finalize := by
  obtain ⟨procedures, subroutines⟩ := finalize_distinct consistent
  have alone : state.finalize.suspended = none := by
    rw [suspended_finalize]
    exact consistent.alone other
  constructor
  · intro waits
    exact absurd alone waits
  · rintro draft (opened | waits)
    · cases opened
    · rw [alone] at waits
      cases waits
  · intro heading opened
    cases opened
  · exact procedures
  · exact subroutines

/-- The end of a subroutine stores it, and the suspended procedure is as new as it was. -/
theorem consistent_resume {state : Assembler} (consistent : Consistent state) {heading : Heading}
    (opened : state.current = some (.subroutine heading)) :
    Consistent { state.finalize with
      current := state.suspended.map .procedure, suspended := none } := by
  obtain ⟨procedures, subroutines⟩ := finalize_distinct consistent
  have kept : state.finalize.procedures = state.procedures := by
    simp only [finalize, opened]
    rfl
  constructor
  · intro waits
    exact absurd rfl waits
  · rintro draft (resumed | waits) prototype
    · obtain ⟨procedure, waited, same⟩ := Option.map_eq_some_iff.mp resumed
      cases same
      simp only [kept]
      exact consistent.prototype _ (.inr waited) prototype
    · cases waits
  · intro other resumed
    obtain ⟨procedure, _, same⟩ := Option.map_eq_some_iff.mp resumed
    cases same
  · exact procedures
  · exact subroutines

theorem not_contained {index : ProcedureIndex} {name : String}
    (new : index.contains (upper name) = false) : upper name ∉ index.keys := by
  intro listed
  rw [← upper_upper, ← ProcedureIndex.contains_iff, new] at listed
  cases listed

theorem consistent_effect {state next : Assembler} {position : Position} {raw : String}
    (effect : Effect state position raw next) (consistent : Consistent state) :
    Consistent next := by
  have stays (docs : DocumentationTracker) : Consistent { state with docs := docs } :=
    ⟨consistent.1, consistent.2, consistent.3, consistent.4, consistent.5⟩
  -- Where nothing is open, no procedure is suspended, and any draft but a subroutine may be opened.
  have opens : state.current = none → ∀ draft : Draft, (∀ heading, draft ≠ .subroutine heading) →
      (∀ procedure, draft = .procedure procedure → procedure.form = .prototype →
        upper procedure.heading.name ∉ state.procedures.keys) →
      Consistent (state.openDraft draft) := by
    intro vacant draft other prototype
    have alone : state.suspended = none := consistent.alone (by simp [vacant])
    apply consistent_open consistent state.suspended draft
    · exact fun waits => absurd alone waits
    · rintro procedure (same | waits)
      · exact prototype procedure same
      · rw [alone] at waits
        cases waits
    · exact fun heading same => absurd same (other heading)
  cases effect with
  | idle => exact consistent
  | marker reads => exact stays _
  | comment inert worded active => exact stays _
  | parameter inert worded opened reading => exact consistent_replace consistent _ _ opened rfl rfl
  | constant reads vacant =>
      exact ⟨consistent.1, consistent.2, consistent.3, consistent.4, consistent.5⟩
  | standalone reads vacant plain =>
      exact ⟨consistent.1, consistent.2, consistent.3, consistent.4, consistent.5⟩
  | pattern reads declares vacant template => exact stays _
  | structureBegun reads vacant plain lasts => exact opens vacant _ (by simp) (by simp)
  | structureLine reads vacant plain ends =>
      exact consistent_finalize (opens vacant _ (by simp) (by simp)) (by simp [openDraft])
  | prototypeBegun reads vacant new lasts =>
      refine opens vacant _ (by simp) ?_
      rintro procedure ⟨rfl⟩ _
      exact not_contained new
  | prototypeLine reads vacant new ends =>
      refine consistent_finalize (opens vacant _ (by simp) ?_) (by simp [openDraft])
      rintro procedure ⟨rfl⟩ _
      exact not_contained new
  | procedureBegun reads =>
      apply consistent_open consistent none
      · exact fun waits => absurd rfl waits
      · rintro procedure (same | waits) prototype
        · cases same
          cases prototype
        · cases waits
      · exact fun heading same => by cases same
  | interfaceBegun reads opened => exact consistent_replace consistent _ _ opened rfl rfl
  | interfaceEnded reads opened => exact consistent_replace consistent _ _ opened rfl rfl
  | @subroutineBegun name display suspended reads new suspends keeps =>
      apply consistent_open consistent suspended
      · exact fun _ => ⟨_, rfl⟩
      · rintro procedure (same | waits)
        · cases same
        · by_cases inBody : ∃ draft, state.current = some (.procedure draft)
          · obtain ⟨draft, opened⟩ := inBody
            rw [suspends draft opened] at waits
            cases waits
            exact consistent.prototype _ (.inl opened)
          · rw [keeps (not_exists.mp inBody)] at waits
            exact consistent.prototype procedure (.inr waits)
      · rintro heading ⟨rfl⟩ known stored
        have other := List.any_eq_false.mp new known stored
        rw [Declaration.isNamed, upper_upper] at other
        exact Bool.not_eq_true _ ▸ other
  | structureEnded reads opened => exact consistent_finalize consistent (by simp [opened])
  | procedureEnded reads closes opened => exact consistent_finalize consistent (by simp [opened])
  | subroutineEnded reads opened => exact consistent_resume consistent opened

theorem consistent_begin_file (state : Assembler) (consistent : Consistent state) :
    Consistent state.beginFile := by
  constructor
  · exact fun waits => absurd rfl waits
  · rintro draft (opened | waits)
    · cases opened
    · cases waits
  · exact fun heading opened => by cases opened
  · exact consistent.procedures
  · exact consistent.subroutines

theorem consistent_feed_all (feedings : List Feeding) : Consistent (feedAll feedings) := by
  apply feed_all_keeps
  · exact fun state position raw => consistent_effect (feed_line_effect state position raw)
  · exact consistent_begin_file
  · constructor <;> simp [ProcedureIndex.toList]

/-- The procedure that a line completes, and so hands to the index: the open one, or a prototype
that ends on its own line. -/
def completed? (state : Assembler) (position : Position) (raw : String) : Option ProcedureDraft :=
  match instruction? raw, state.current with
  | some (.closePrototype, _), some (.procedure draft) => some draft
  | some (.closeProcedure, _), some (.procedure draft) => some draft
  | some (.openPrototype, name :: display), none =>
      if state.procedures.contains (upper name) = false ∧
          endsOnItsLine "DCL-PR" (display.map upper) = true then
        some ⟨Heading.of name display state.docs.snapshot position, .prototype, true, []⟩
      else none
  | _, _ => none

theorem completed_cases {state : Assembler} {position : Position} {raw : String}
    {draft : ProcedureDraft} (completes : state.completed? position raw = some draft) :
    (∃ operation others, instruction? raw = some (operation, others) ∧
      (operation = .closePrototype ∨ operation = .closeProcedure) ∧
      state.current = some (.procedure draft)) ∨
    (∃ name display, instruction? raw = some (.openPrototype, name :: display) ∧
      state.current = none ∧ state.procedures.contains (upper name) = false ∧
      endsOnItsLine "DCL-PR" (display.map upper) = true ∧
      draft = ⟨Heading.of name display state.docs.snapshot position, .prototype, true, []⟩) := by
  unfold completed? at completes
  split at completes
  · rename_i reads opened
    cases completes
    exact .inl ⟨_, _, reads, .inl rfl, opened⟩
  · rename_i reads opened
    cases completes
    exact .inl ⟨_, _, reads, .inr rfl, opened⟩
  · rename_i reads vacant
    split at completes
    · rename_i whole
      cases completes
      exact .inr ⟨_, _, reads, vacant, whole.1, whole.2, rfl⟩
    · cases completes
  · cases completes

theorem procedures_completed {state : Assembler} {position : Position} {raw : String}
    {draft : ProcedureDraft} (completes : state.completed? position raw = some draft) :
    (state.feedLine position raw).procedures = state.procedures.add draft.finish draft.form := by
  rcases completed_cases completes with
      ⟨operation, others, reads, closes, opened⟩ | ⟨name, display, reads, vacant, new, ends, rfl⟩
  · rw [feed_end_procedure reads closes opened]
    simp only [finalize, opened]
    rfl
  · rw [feed_prototype_line reads vacant new ends]
    rfl

theorem procedures_kept {state next : Assembler} {position : Position} {raw : String}
    (effect : Effect state position raw next)
    (nothing : state.completed? position raw = none) : next.procedures = state.procedures := by
  cases effect with
  | structureLine reads vacant plain ends => rfl
  | prototypeLine reads vacant new ends =>
      unfold completed? at nothing
      simp only [reads, vacant] at nothing
      rw [if_pos ⟨new, ends⟩] at nothing
      cases nothing
  | structureEnded reads opened =>
      simp only [finalize, opened]
      rfl
  | procedureEnded reads closes opened =>
      unfold completed? at nothing
      rcases closes with rfl | rfl
      · simp only [reads, opened] at nothing
        cases nothing
      · simp only [reads, opened] at nothing
        cases nothing
  | subroutineEnded reads opened =>
      simp only [finalize, opened]
      rfl
  | _ => rfl

/-- The index accepts what it is handed: a definition always, a prototype because it is new. -/
theorem completed_accepted {state : Assembler} (consistent : Consistent state)
    {position : Position} {raw : String} {draft : ProcedureDraft}
    (completes : state.completed? position raw = some draft) :
    state.procedures.accepts draft.finish.name draft.form = true := by
  rw [ProcedureIndex.accepts_iff]
  cases form : draft.form with
  | definition => exact .inl rfl
  | prototype =>
      right
      rcases completed_cases completes with
          ⟨_, _, _, _, opened⟩ | ⟨name, display, _, _, new, _, rfl⟩
      · exact consistent.prototype draft (.inl opened) form
      · exact not_contained new

/-- In every state that lines and files lead to: a procedure is suspended by an open subroutine
alone; a prototype that is open or suspended has a name that no stored procedure has, and an open
subroutine one that no stored subroutine has; stored procedures, and stored subroutines, have
different names. So the index accepts every procedure that a line completes. -/
theorem open_names_are_new (feedings : List Feeding) :
    (feedAll feedings).Consistent ∧
      ∀ position raw, match (feedAll feedings).completed? position raw with
        | none => ((feedAll feedings).feedLine position raw).procedures =
            (feedAll feedings).procedures
        | some draft =>
            (feedAll feedings).procedures.accepts draft.finish.name draft.form = true ∧
            ((feedAll feedings).feedLine position raw).procedures =
              (feedAll feedings).procedures.add draft.finish draft.form := by
  have consistent := consistent_feed_all feedings
  refine ⟨consistent, ?_⟩
  intro position raw
  cases completes : (feedAll feedings).completed? position raw with
  | none => exact procedures_kept (feed_line_effect _ _ _) completes
  | some draft => exact ⟨completed_accepted consistent completes, procedures_completed completes⟩

end Assembler

end RpgSymbols
