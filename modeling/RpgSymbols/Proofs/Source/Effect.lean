import RpgSymbols.Proofs.Source.Instruction

/-!
What one line can do to the assembler. `Effect` lists every change with the conditions under which
it happens; a property that a line keeps is proved by going through this list, and no proof about
runs opens the single operations again.
-/

namespace RpgSymbols

open Text

namespace Assembler

/-- The states a line can lead to. The line that is passed over, for whatever reason, is `idle`. -/
inductive Effect (state : Assembler) (position : Position) (raw : String) : Assembler → Prop
  | idle : Effect state position raw state
  | marker {others : List String} (reads : instruction? raw = some (.docMarker, others)) :
      Effect state position raw { state with docs := state.docs.toggle }
  | comment {text : String} (inert : Inert raw) (worded : comment? raw = some text)
      (active : state.docs.active = true) :
      Effect state position raw { state with docs := state.docs.feed text }
  | parameter {draft : ProcedureDraft} {words : List String} (inert : Inert raw)
      (worded : parameterLine? raw = some words)
      (opened : state.current = some (.procedure draft)) (reading : draft.reading = true) :
      Effect state position raw
        { state with current := some (.procedure (draft.addParameter words position)) }
  | constant {name : String} {display : List String}
      (reads : instruction? raw = some (.constant, name :: display))
      (vacant : state.current = none) :
      Effect state position raw (consumeDocs { state with
        constants := state.constants ++
          [(Heading.of name display state.docs.snapshot position).declare .constant []] })
  | standalone {name : String} {display : List String}
      (reads : instruction? raw = some (.standalone, name :: display))
      (vacant : state.current = none) (plain : templateKeyword ∉ display.map upper) :
      Effect state position raw (consumeDocs { state with
        standalones := state.standalones ++
          [(Heading.of name display state.docs.snapshot position).declare .standalone []] })
  | pattern {operation : Operation} {name : String} {display : List String}
      (reads : instruction? raw = some (operation, name :: display))
      (declares : operation = .standalone ∨ operation = .openStructure)
      (vacant : state.current = none) (template : templateKeyword ∈ display.map upper) :
      Effect state position raw state.consumeDocs
  | structureBegun {name : String} {display : List String}
      (reads : instruction? raw = some (.openStructure, name :: display))
      (vacant : state.current = none) (plain : templateKeyword ∉ display.map upper)
      (lasts : endsOnItsLine "DCL-DS" (display.map upper) = false) :
      Effect state position raw (state.openDraft
        (.dataStructure (Heading.of name display state.docs.snapshot position)))
  | structureLine {name : String} {display : List String}
      (reads : instruction? raw = some (.openStructure, name :: display))
      (vacant : state.current = none) (plain : templateKeyword ∉ display.map upper)
      (ends : endsOnItsLine "DCL-DS" (display.map upper) = true) :
      Effect state position raw (state.openDraft
        (.dataStructure (Heading.of name display state.docs.snapshot position))).finalize
  | prototypeBegun {name : String} {display : List String}
      (reads : instruction? raw = some (.openPrototype, name :: display))
      (vacant : state.current = none) (new : state.procedures.contains (upper name) = false)
      (lasts : endsOnItsLine "DCL-PR" (display.map upper) = false) :
      Effect state position raw (state.openDraft (.procedure
        ⟨Heading.of name display state.docs.snapshot position, .prototype, true, []⟩))
  | prototypeLine {name : String} {display : List String}
      (reads : instruction? raw = some (.openPrototype, name :: display))
      (vacant : state.current = none) (new : state.procedures.contains (upper name) = false)
      (ends : endsOnItsLine "DCL-PR" (display.map upper) = true) :
      Effect state position raw (state.openDraft (.procedure
        ⟨Heading.of name display state.docs.snapshot position, .prototype, true, []⟩)).finalize
  | procedureBegun {name : String} {display : List String}
      (reads : instruction? raw = some (.openProcedure, name :: display)) :
      Effect state position raw (openDraft { state with suspended := none } (.procedure
        ⟨Heading.of name display state.docs.snapshot position, .definition, false, []⟩))
  | interfaceBegun {draft : ProcedureDraft} {others : List String}
      (reads : instruction? raw = some (.openInterface, others))
      (opened : state.current = some (.procedure draft)) :
      Effect state position raw { state with
        current := some (.procedure (draft.beginInterface (others.drop 1)
          (endsOnItsLine "DCL-PI" ((others.drop 1).map upper)))) }
  | interfaceEnded {draft : ProcedureDraft} {others : List String}
      (reads : instruction? raw = some (.closeInterface, others))
      (opened : state.current = some (.procedure draft)) :
      Effect state position raw
        { state with current := some (.procedure { draft with reading := false }) }
  | subroutineBegun {name : String} {display : List String} {suspended : Option ProcedureDraft}
      (reads : instruction? raw = some (.openSubroutine, name :: display))
      (new : (state.subroutines.any fun known => known.isNamed (upper name)) = false)
      (suspends : ∀ draft, state.current = some (.procedure draft) → suspended = some draft)
      (keeps : (∀ draft, state.current ≠ some (.procedure draft)) → suspended = state.suspended) :
      Effect state position raw (openDraft { state with suspended := suspended }
        (.subroutine (Heading.of name [] state.docs.snapshot position)))
  | structureEnded {heading : Heading} {others : List String}
      (reads : instruction? raw = some (.closeStructure, others))
      (opened : state.current = some (.dataStructure heading)) :
      Effect state position raw state.finalize
  | procedureEnded {operation : Operation} {draft : ProcedureDraft} {others : List String}
      (reads : instruction? raw = some (operation, others))
      (closes : operation = .closePrototype ∨ operation = .closeProcedure)
      (opened : state.current = some (.procedure draft)) :
      Effect state position raw state.finalize
  | subroutineEnded {heading : Heading} {others : List String}
      (reads : instruction? raw = some (.closeSubroutine, others))
      (opened : state.current = some (.subroutine heading)) :
      Effect state position raw { state.finalize with
        current := state.suspended.map .procedure, suspended := none }

theorem current_finalize (state : Assembler) : state.finalize.current = none := rfl

theorem suspended_finalize (state : Assembler) :
    state.finalize.suspended = state.suspended := by
  unfold finalize
  split <;> rfl

theorem docs_finalize (state : Assembler) : state.finalize.docs = state.docs.reset := by
  unfold finalize
  split <;> rfl

/-- A procedure that is suspended behind the beginning of a subroutine was open or suspended. -/
theorem suspended_before {state : Assembler} {suspended : Option ProcedureDraft}
    (suspends : ∀ draft, state.current = some (.procedure draft) → suspended = some draft)
    (keeps : (∀ draft, state.current ≠ some (.procedure draft)) → suspended = state.suspended)
    {draft : ProcedureDraft} (waits : suspended = some draft) :
    state.current = some (.procedure draft) ∨ state.suspended = some draft := by
  by_cases inBody : ∃ procedure, state.current = some (.procedure procedure)
  · obtain ⟨procedure, opened⟩ := inBody
    cases waits.symm.trans (suspends procedure opened)
    exact .inl opened
  · exact .inr ((keeps (not_exists.mp inBody)).symm.trans waits)

theorem inert_effect {raw : String} (inert : Inert raw) (state : Assembler)
    (position : Position) : Effect state position raw (state.feedLine position raw) := by
  cases worded : comment? raw with
  | some text =>
      rw [feed_line_of_comment inert worded]
      split
      · rename_i active
        exact .comment inert worded active
      · exact .idle
  | none =>
      cases declares : parameterLine? raw with
      | none =>
          rw [feed_line_of_silence inert worded declares]
          exact .idle
      | some words =>
          rw [feed_line_of_parameter inert declares]
          split
          · rename_i opened
            split
            · rename_i reading
              exact .parameter inert declares opened reading
            · exact .idle
          · exact .idle

section Declaring

variable {raw : String} {others : List String} {state : Assembler} {position : Position}

theorem standalone_effect (reads : instruction? raw = some (.standalone, others)) :
    Effect state position raw (state.onStandalone others position) := by
  unfold onStandalone
  split
  · rename_i name display vacant
    dsimp only
    split
    · rename_i template
      exact .pattern reads (.inl rfl) vacant (List.contains_iff_mem.mp template)
    · rename_i plain
      exact .standalone reads vacant (mt List.contains_iff_mem.mpr plain)
  · exact .idle

theorem open_structure_effect (reads : instruction? raw = some (.openStructure, others)) :
    Effect state position raw (state.onOpenStructure others position) := by
  unfold onOpenStructure
  split
  · rename_i name display vacant
    dsimp only
    split
    · rename_i template
      exact .pattern reads (.inr rfl) vacant (List.contains_iff_mem.mp template)
    · rename_i listed
      have plain : templateKeyword ∉ display.map upper := mt List.contains_iff_mem.mpr listed
      split
      · rename_i ends
        exact .structureLine reads vacant plain ends
      · rename_i lasts
        exact .structureBegun reads vacant plain (Bool.not_eq_true _ ▸ lasts)
  · exact .idle

theorem open_prototype_effect (reads : instruction? raw = some (.openPrototype, others)) :
    Effect state position raw (state.onOpenPrototype others position) := by
  unfold onOpenPrototype
  split
  · rename_i name display vacant
    split
    · exact .idle
    · rename_i unknown
      have new : state.procedures.contains (upper name) = false := Bool.not_eq_true _ ▸ unknown
      dsimp only
      split
      · rename_i ends
        exact .prototypeLine reads vacant new ends
      · rename_i lasts
        exact .prototypeBegun reads vacant new (Bool.not_eq_true _ ▸ lasts)
  · exact .idle

theorem open_subroutine_effect (reads : instruction? raw = some (.openSubroutine, others)) :
    Effect state position raw (state.onOpenSubroutine others position) := by
  unfold onOpenSubroutine
  split
  · exact .idle
  · split
    · exact .idle
    · rename_i new
      refine .subroutineBegun reads (Bool.not_eq_true _ ▸ new) ?_ ?_
      · intro draft opened
        simp only [opened]
      · intro other
        split
        · rename_i draft opened
          exact absurd opened (other draft)
        · rfl

end Declaring

theorem with_nothing_open (state : Assembler) (vacant : state.current = none)
    (alone : state.suspended = none) :
    state = { state with current := none, suspended := none } := by
  rw [← vacant, ← alone]

/-- The procedure that a subroutine suspended is open again behind it. -/
theorem close_subroutine_resumes {state : Assembler} {heading : Heading}
    (opened : state.current = some (.subroutine heading)) :
    state.onCloseSubroutine = { state.finalize with
      current := state.suspended.map .procedure, suspended := none } := by
  simp only [onCloseSubroutine, opened, suspended_finalize]
  cases suspends : state.suspended with
  | none =>
      exact with_nothing_open state.finalize rfl ((suspended_finalize state).trans suspends)
  | some draft => rfl

theorem instruction_effect {raw : String} {operation : Operation} {others : List String}
    (reads : instruction? raw = some (operation, others)) (state : Assembler)
    (position : Position) :
    Effect state position raw (state.perform operation others position) := by
  cases operation with
  | docMarker => exact .marker reads
  | constant =>
      simp only [perform, onConstant]
      split
      · rename_i vacant
        exact .constant reads vacant
      · exact .idle
  | standalone => exact standalone_effect reads
  | openStructure => exact open_structure_effect reads
  | closeStructure =>
      simp only [perform, onCloseStructure]
      split
      · rename_i opened
        exact .structureEnded reads opened
      · exact .idle
  | openPrototype => exact open_prototype_effect reads
  | closePrototype =>
      simp only [perform, onCloseProcedure]
      split
      · rename_i opened
        exact .procedureEnded reads (.inl rfl) opened
      · exact .idle
  | openProcedure =>
      cases others with
      | nil => exact .idle
      | cons name display => exact .procedureBegun reads
  | openInterface =>
      simp only [perform, onOpenInterface]
      split
      · rename_i opened
        exact .interfaceBegun reads opened
      · exact .idle
  | closeInterface =>
      simp only [perform, onCloseInterface]
      split
      · rename_i opened
        exact .interfaceEnded reads opened
      · exact .idle
  | closeProcedure =>
      simp only [perform, onCloseProcedure]
      split
      · rename_i opened
        exact .procedureEnded reads (.inr rfl) opened
      · exact .idle
  | openSubroutine => exact open_subroutine_effect reads
  | closeSubroutine =>
      simp only [perform]
      by_cases inside : ∃ heading, state.current = some (.subroutine heading)
      · obtain ⟨heading, opened⟩ := inside
        rw [close_subroutine_resumes opened]
        exact .subroutineEnded reads opened
      · unfold onCloseSubroutine
        split
        · rename_i heading opened
          exact absurd ⟨heading, opened⟩ inside
        · exact .idle

/-- Every line has one of the listed effects. -/
theorem feed_line_effect (state : Assembler) (position : Position) (raw : String) :
    Effect state position raw (state.feedLine position raw) := by
  cases reads : instruction? raw with
  | none => exact inert_effect reads state position
  | some read =>
      rw [feed_line_of_instruction reads]
      exact instruction_effect reads state position

/-! The conditions of an effect are enough to bring it about. -/

section Forward

variable {raw name : String} {display others : List String} {state : Assembler}
  {position : Position}

theorem feed_constant (reads : instruction? raw = some (.constant, name :: display))
    (vacant : state.current = none) :
    state.feedLine position raw = consumeDocs { state with
      constants := state.constants ++
        [(Heading.of name display state.docs.snapshot position).declare .constant []] } := by
  rw [feed_line_of_instruction reads]
  simp only [perform, onConstant, vacant]

theorem feed_standalone (reads : instruction? raw = some (.standalone, name :: display))
    (vacant : state.current = none) (plain : templateKeyword ∉ display.map upper) :
    state.feedLine position raw = consumeDocs { state with
      standalones := state.standalones ++
        [(Heading.of name display state.docs.snapshot position).declare .standalone []] } := by
  rw [feed_line_of_instruction reads]
  simp only [perform, onStandalone, vacant]
  exact if_neg (mt List.contains_iff_mem.mp plain)

theorem feed_standalone_pattern (reads : instruction? raw = some (.standalone, name :: display))
    (vacant : state.current = none) (template : templateKeyword ∈ display.map upper) :
    state.feedLine position raw = state.consumeDocs := by
  rw [feed_line_of_instruction reads]
  simp only [perform, onStandalone, vacant]
  exact if_pos (List.contains_iff_mem.mpr template)

theorem feed_structure_pattern
    (reads : instruction? raw = some (.openStructure, name :: display))
    (vacant : state.current = none) (template : templateKeyword ∈ display.map upper) :
    state.feedLine position raw = state.consumeDocs := by
  rw [feed_line_of_instruction reads]
  simp only [perform, onOpenStructure, vacant]
  exact if_pos (List.contains_iff_mem.mpr template)

theorem feed_structure_line (reads : instruction? raw = some (.openStructure, name :: display))
    (vacant : state.current = none) (plain : templateKeyword ∉ display.map upper)
    (ends : endsOnItsLine "DCL-DS" (display.map upper) = true) :
    state.feedLine position raw = (state.openDraft
      (.dataStructure (Heading.of name display state.docs.snapshot position))).finalize := by
  rw [feed_line_of_instruction reads]
  simp only [perform, onOpenStructure, vacant]
  exact (if_neg (mt List.contains_iff_mem.mp plain)).trans (if_pos ends)

theorem feed_structure (reads : instruction? raw = some (.openStructure, name :: display))
    (vacant : state.current = none) (plain : templateKeyword ∉ display.map upper)
    (lasts : endsOnItsLine "DCL-DS" (display.map upper) = false) :
    state.feedLine position raw = state.openDraft
      (.dataStructure (Heading.of name display state.docs.snapshot position)) := by
  rw [feed_line_of_instruction reads]
  simp only [perform, onOpenStructure, vacant]
  exact (if_neg (mt List.contains_iff_mem.mp plain)).trans (if_neg (ne_true_of_eq_false lasts))

theorem feed_prototype_known
    (reads : instruction? raw = some (.openPrototype, name :: display))
    (known : state.procedures.contains (upper name) = true) :
    state.feedLine position raw = state := by
  rw [feed_line_of_instruction reads]
  simp only [perform, onOpenPrototype]
  split
  · rename_i same
    cases same
    exact if_pos known
  · rfl

theorem feed_prototype_line
    (reads : instruction? raw = some (.openPrototype, name :: display))
    (vacant : state.current = none) (new : state.procedures.contains (upper name) = false)
    (ends : endsOnItsLine "DCL-PR" (display.map upper) = true) :
    state.feedLine position raw = (state.openDraft (.procedure
      ⟨Heading.of name display state.docs.snapshot position, .prototype, true, []⟩)).finalize := by
  rw [feed_line_of_instruction reads]
  simp only [perform, onOpenPrototype, vacant]
  exact (if_neg (ne_true_of_eq_false new)).trans (if_pos ends)

theorem feed_prototype (reads : instruction? raw = some (.openPrototype, name :: display))
    (vacant : state.current = none) (new : state.procedures.contains (upper name) = false)
    (lasts : endsOnItsLine "DCL-PR" (display.map upper) = false) :
    state.feedLine position raw = state.openDraft (.procedure
      ⟨Heading.of name display state.docs.snapshot position, .prototype, true, []⟩) := by
  rw [feed_line_of_instruction reads]
  simp only [perform, onOpenPrototype, vacant]
  exact (if_neg (ne_true_of_eq_false new)).trans (if_neg (ne_true_of_eq_false lasts))

theorem feed_procedure (reads : instruction? raw = some (.openProcedure, name :: display)) :
    state.feedLine position raw = openDraft { state with suspended := none } (.procedure
      ⟨Heading.of name display state.docs.snapshot position, .definition, false, []⟩) := by
  rw [feed_line_of_instruction reads]
  rfl

theorem feed_interface {draft : ProcedureDraft}
    (reads : instruction? raw = some (.openInterface, others))
    (opened : state.current = some (.procedure draft)) :
    state.feedLine position raw = state.openDraft (.procedure
      (draft.beginInterface (others.drop 1)
        (endsOnItsLine "DCL-PI" ((others.drop 1).map upper)))) := by
  rw [feed_line_of_instruction reads]
  simp only [perform, onOpenInterface, opened]
  rfl

theorem feed_end_interface {draft : ProcedureDraft}
    (reads : instruction? raw = some (.closeInterface, others))
    (opened : state.current = some (.procedure draft)) :
    state.feedLine position raw =
      state.openDraft (.procedure { draft with reading := false }) := by
  rw [feed_line_of_instruction reads]
  simp only [perform, onCloseInterface, opened]
  rfl

theorem feed_subroutine_known
    (reads : instruction? raw = some (.openSubroutine, name :: display))
    (known : (state.subroutines.any fun old => old.isNamed (upper name)) = true) :
    state.feedLine position raw = state := by
  rw [feed_line_of_instruction reads]
  simp only [perform, onOpenSubroutine]
  exact if_pos known

theorem feed_subroutine (reads : instruction? raw = some (.openSubroutine, name :: display))
    (vacant : state.current = none)
    (new : (state.subroutines.any fun old => old.isNamed (upper name)) = false) :
    state.feedLine position raw = state.openDraft
      (.subroutine (Heading.of name [] state.docs.snapshot position)) := by
  rw [feed_line_of_instruction reads]
  simp only [perform, onOpenSubroutine, vacant]
  exact if_neg (ne_true_of_eq_false new)

theorem feed_subroutine_inside {draft : ProcedureDraft}
    (reads : instruction? raw = some (.openSubroutine, name :: display))
    (opened : state.current = some (.procedure draft))
    (new : (state.subroutines.any fun old => old.isNamed (upper name)) = false) :
    state.feedLine position raw = openDraft { state with suspended := some draft }
      (.subroutine (Heading.of name [] state.docs.snapshot position)) := by
  rw [feed_line_of_instruction reads]
  simp only [perform, onOpenSubroutine, opened]
  exact if_neg (ne_true_of_eq_false new)

theorem feed_end_structure {heading : Heading}
    (reads : instruction? raw = some (.closeStructure, others))
    (opened : state.current = some (.dataStructure heading)) :
    state.feedLine position raw = state.finalize := by
  rw [feed_line_of_instruction reads]
  simp only [perform, onCloseStructure, opened]

theorem feed_end_procedure {operation : Operation} {draft : ProcedureDraft}
    (reads : instruction? raw = some (operation, others))
    (closes : operation = .closePrototype ∨ operation = .closeProcedure)
    (opened : state.current = some (.procedure draft)) :
    state.feedLine position raw = state.finalize := by
  rw [feed_line_of_instruction reads]
  rcases closes with rfl | rfl <;> simp only [perform, onCloseProcedure, opened]

theorem feed_end_subroutine {heading : Heading}
    (reads : instruction? raw = some (.closeSubroutine, others))
    (opened : state.current = some (.subroutine heading)) :
    state.feedLine position raw = { state.finalize with
      current := state.suspended.map .procedure, suspended := none } := by
  rw [feed_line_of_instruction reads]
  exact close_subroutine_resumes opened

/-- The end of something that is not open is passed over. -/
theorem feed_stray_ending {operation : Operation}
    (reads : instruction? raw = some (operation, others)) (vacant : state.current = none)
    (closes : operation ∈ [.closeStructure, .closePrototype, .closeSubroutine]) :
    state.feedLine position raw = state := by
  rw [feed_line_of_instruction reads]
  simp only [List.mem_cons, List.not_mem_nil, or_false] at closes
  rcases closes with rfl | rfl | rfl
  · simp only [perform, onCloseStructure, vacant]
  · simp only [perform, onCloseProcedure, vacant]
  · simp only [perform, onCloseSubroutine, vacant]

/-- Inside a procedure declarations are passed over. -/
theorem feed_local {operation : Operation} {draft : ProcedureDraft}
    (reads : instruction? raw = some (operation, others))
    (opened : state.current = some (.procedure draft))
    (declares : operation ∈ [.constant, .standalone, .openStructure, .closeStructure]) :
    state.feedLine position raw = state := by
  rw [feed_line_of_instruction reads]
  simp only [List.mem_cons, List.not_mem_nil, or_false] at declares
  rcases declares with rfl | rfl | rfl | rfl
  · simp only [perform, onConstant, opened]
  · simp only [perform, onStandalone, opened]
  · simp only [perform, onOpenStructure, opened]
  · simp only [perform, onCloseStructure, opened]

end Forward

end Assembler

end RpgSymbols
