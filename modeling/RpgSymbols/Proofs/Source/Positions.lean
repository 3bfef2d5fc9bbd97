import RpgSymbols.Proofs.Source.Collections
import RpgSymbols.Proofs.Source.Origin

/-!
Every declaration has a position of its own. A line puts at most one declaration at its position,
and what is completed, suspended or resumed afterwards only moves. So no position is used twice, as
long as no file is read twice.
-/

namespace RpgSymbols

open Text

def standingAt (place : Position) (declarations : List Declaration) : Nat :=
  (declarations.map Declaration.position).count (some place)

theorem standing_at_append (place : Position) (first second : List Declaration) :
    standingAt place (first ++ second) = standingAt place first + standingAt place second := by
  rw [standingAt, List.map_append, List.count_append, standingAt, standingAt]

def Position.count (position place : Position) : Nat := if position = place then 1 else 0

theorem Position.count_other {position place : Position} (other : position ≠ place) :
    position.count place = 0 :=
  if_neg other

theorem Position.count_le_one (position place : Position) : position.count place ≤ 1 := by
  unfold Position.count
  split <;> omega

theorem Heading.standing_at (heading : Heading) (kind : Kind) (subItems : List Declaration)
    (place : Position) :
    standingAt place [heading.declare kind subItems] = heading.position.count place := by
  simp [standingAt, Heading.declare, Position.count, List.count_singleton]

def Draft.heading : Draft → Heading
  | .dataStructure heading => heading
  | .procedure draft => draft.heading
  | .subroutine heading => heading

theorem ProcedureIndex.standing_at_add {index : ProcedureIndex} (distinct : index.keys.Nodup)
    (declaration : Declaration) (form : ProcedureForm) (place : Position) :
    standingAt place (index.add declaration form).toList ≤
      standingAt place index.toList + standingAt place [declaration] := by
  by_cases known : upper declaration.name ∈ index.keys
  · cases form with
    | prototype =>
        rw [add_prototype known]
        exact Nat.le_add_right _ _
    | definition =>
        obtain ⟨old, listed, same⟩ := List.mem_map.mp known
        obtain ⟨slot, held⟩ := List.getElem?_of_mem listed
        obtain ⟨bound, _⟩ := List.getElem?_eq_some_iff.mp held
        have inside : slot < ((index.entries.map IndexedProcedure.declaration).map
            Declaration.position).length := by
          simpa only [List.length_map] using bound
        rw [add_definition_at distinct held same, standingAt, toList, List.map_set, List.map_set,
          List.count_set inside, standingAt, toList, standingAt, List.map_singleton,
          List.count_singleton]
        exact Nat.add_le_add_right (Nat.sub_le _ _) _
  · rw [add_new known, toList, toList, List.map_append, standing_at_append]
    exact Nat.le_refl _

namespace Assembler

/-- How often a place is used by what was gathered, is open or is suspended. -/
def usesOf (state : Assembler) (place : Position) : Nat :=
  standingAt place state.finish.declarations +
    state.current.elim 0 (fun draft => draft.heading.position.count place) +
    state.suspended.elim 0 (fun draft => draft.heading.position.count place)

theorem standing_at_finish (state : Assembler) (place : Position) :
    standingAt place state.finish.declarations =
      standingAt place state.constants + standingAt place state.standalones +
        standingAt place state.structures + standingAt place state.procedures.toList +
        standingAt place state.subroutines := by
  simp only [finish, Model.declarations, standing_at_append]

theorem uses_finalize {state : Assembler} (distinct : state.procedures.keys.Nodup)
    (place : Position) : state.finalize.usesOf place ≤ state.usesOf place := by
  cases opened : state.current with
  | none =>
      simp only [usesOf, finalize, opened]
      exact Nat.le_refl _
  | some draft =>
      cases draft with
      | dataStructure heading =>
          have moved := heading.standing_at .dataStructure [] place
          simp only [usesOf, standing_at_finish, finalize, opened, consumeDocs,
            standing_at_append, moved, Option.elim_none, Option.elim_some, Draft.heading]
          omega
      | procedure draft =>
          have moved := draft.heading.standing_at .procedure draft.parameters place
          have added := ProcedureIndex.standing_at_add distinct draft.finish draft.form place
          rw [ProcedureDraft.finish, moved] at added
          simp only [usesOf, standing_at_finish, finalize, opened, consumeDocs, Option.elim_none,
            Option.elim_some, Draft.heading, ProcedureDraft.finish]
          omega
      | subroutine heading =>
          have moved := heading.standing_at .subroutine [] place
          simp only [usesOf, standing_at_finish, finalize, opened, consumeDocs,
            standing_at_append, moved, Option.elim_none, Option.elim_some, Draft.heading]
          omega

theorem uses_open {state : Assembler} {suspended : Option ProcedureDraft}
    (resumable : ∀ procedure, suspended = some procedure →
      state.current = some (.procedure procedure) ∨ state.suspended = some procedure)
    (draft : Draft) (place : Position) :
    (openDraft { state with suspended := suspended } draft).usesOf place ≤
      state.usesOf place + draft.heading.position.count place := by
  have gathered : standingAt place
      (openDraft { state with suspended := suspended } draft).finish.declarations =
        standingAt place state.finish.declarations := rfl
  rw [usesOf, gathered, usesOf]
  cases suspended with
  | none =>
      simp only [openDraft, Option.elim_some, Option.elim_none]
      omega
  | some procedure =>
      rcases resumable procedure rfl with opened | waits
      · simp only [openDraft, Option.elim_some, opened, Draft.heading]
        omega
      · simp only [openDraft, Option.elim_some, waits]
        omega

theorem uses_replace {state : Assembler} {before after : ProcedureDraft}
    (opened : state.current = some (.procedure before))
    (same : after.heading.position = before.heading.position) (place : Position) :
    { state with current := some (.procedure after) }.usesOf place = state.usesOf place := by
  have gathered : standingAt place
      { state with current := some (.procedure after) }.finish.declarations =
        standingAt place state.finish.declarations := rfl
  simp only [usesOf, gathered, opened, Option.elim_some, Draft.heading, same]

theorem uses_resume (state : Assembler) (vacant : state.current = none) (place : Position) :
    { state with current := state.suspended.map .procedure, suspended := none }.usesOf place =
      state.usesOf place := by
  have gathered : standingAt place { state with
      current := state.suspended.map .procedure, suspended := none }.finish.declarations =
        standingAt place state.finish.declarations := rfl
  rw [usesOf, gathered, usesOf, vacant]
  cases state.suspended <;> rfl

/-- A line uses its own position once more at most, and no other. -/
theorem uses_effect {state next : Assembler} {position : Position} {raw : String}
    (effect : Effect state position raw next) (distinct : state.procedures.keys.Nodup)
    (place : Position) :
    next.usesOf place ≤ state.usesOf place + position.count place := by
  have keeps : ∀ procedure, state.suspended = some procedure →
      state.current = some (.procedure procedure) ∨ state.suspended = some procedure :=
    fun procedure waits => .inr waits
  have stays (docs : DocumentationTracker) :
      { state with docs := docs }.usesOf place = state.usesOf place := rfl
  have finalized (draft : Draft) :
      (state.openDraft draft).finalize.usesOf place ≤ (state.openDraft draft).usesOf place := by
    apply uses_finalize
    exact distinct
  cases effect with
  | idle => exact Nat.le_add_right _ _
  | marker reads =>
      rw [stays]
      exact Nat.le_add_right _ _
  | comment inert worded active =>
      rw [stays]
      exact Nat.le_add_right _ _
  | parameter inert worded opened reading =>
      exact Nat.le_add_right_of_le (Nat.le_of_eq (uses_replace opened rfl place))
  | @constant name display reads vacant =>
      have moved := (Heading.of name display state.docs.snapshot position).standing_at .constant []
        place
      simp only [usesOf, standing_at_finish, consumeDocs, standing_at_append, moved]
      simp only [Heading.of]
      omega
  | @standalone name display reads vacant plain =>
      have moved := (Heading.of name display state.docs.snapshot position).standing_at .standalone
        [] place
      simp only [usesOf, standing_at_finish, consumeDocs, standing_at_append, moved]
      simp only [Heading.of]
      omega
  | pattern reads declares vacant template =>
      rw [consumeDocs, stays]
      exact Nat.le_add_right _ _
  | structureBegun reads vacant plain lasts => exact uses_open keeps _ place
  | structureLine reads vacant plain ends =>
      refine Nat.le_trans (finalized _) ?_
      exact uses_open keeps _ place
  | prototypeBegun reads vacant new lasts => exact uses_open keeps _ place
  | prototypeLine reads vacant new ends =>
      refine Nat.le_trans (finalized _) ?_
      exact uses_open keeps _ place
  | procedureBegun reads =>
      apply uses_open
      intro procedure absurdity
      cases absurdity
  | interfaceBegun reads opened =>
      exact Nat.le_add_right_of_le (Nat.le_of_eq (uses_replace opened rfl place))
  | interfaceEnded reads opened =>
      exact Nat.le_add_right_of_le (Nat.le_of_eq (uses_replace opened rfl place))
  | subroutineBegun reads new suspends retains =>
      exact uses_open (fun _ waits => suspended_before suspends retains waits) _ place
  | structureEnded reads opened =>
      exact Nat.le_add_right_of_le (uses_finalize distinct place)
  | procedureEnded reads closes opened =>
      exact Nat.le_add_right_of_le (uses_finalize distinct place)
  | subroutineEnded reads opened =>
      rw [← suspended_finalize, uses_resume state.finalize (current_finalize state)]
      exact Nat.le_add_right_of_le (uses_finalize distinct place)

/-- What was gathered, is open or is suspended stands at places that were read, each at its own. -/
structure Placed (Read : Position → Prop) (state : Assembler) : Prop where
  consistent : Consistent state
  once : ∀ place, state.usesOf place ≤ 1
  read : ∀ place, 0 < state.usesOf place → Read place

theorem Placed.mono {Read More : Position → Prop} {state : Assembler} (placed : Placed Read state)
    (more : ∀ place, Read place → More place) : Placed More state :=
  ⟨placed.consistent, placed.once, fun place used => more place (placed.read place used)⟩

theorem placed_feed_line {Read : Position → Prop} {state : Assembler} (placed : Placed Read state)
    {position : Position} (new : ¬ Read position) (raw : String) :
    Placed (fun place => Read place ∨ place = position) (state.feedLine position raw) := by
  have effect := feed_line_effect state position raw
  have uses := uses_effect effect placed.consistent.distinct
  have elsewhere : ∀ place, position ≠ place →
      (state.feedLine position raw).usesOf place ≤ state.usesOf place := by
    intro place other
    simpa only [Position.count_other other, Nat.add_zero] using uses place
  refine ⟨consistent_effect effect placed.consistent, ?_, ?_⟩
  · intro place
    by_cases here : position = place
    · subst here
      have unused : state.usesOf position = 0 :=
        Nat.eq_zero_of_not_pos fun used => new (placed.read position used)
      have used := uses position
      have once := position.count_le_one position
      omega
    · exact Nat.le_trans (elsewhere place here) (placed.once place)
  · intro place used
    by_cases here : position = place
    · exact .inr here.symm
    · exact .inl (placed.read place (Nat.lt_of_lt_of_le used (elsewhere place here)))

theorem placed_feed_lines {Read : Position → Prop} {state : Assembler} (placed : Placed Read state)
    (path : String) (number : Nat) (new : ∀ line : Nat, number ≤ line → ¬ Read ⟨path, line⟩)
    (lines : List String) :
    Placed (fun place => Read place ∨ place.path = path) (feedLines path state number lines) := by
  induction lines generalizing state number Read with
  | nil => exact placed.mono fun place => .inl
  | cons raw rest induction =>
      have stepped := placed_feed_line placed (new number (Nat.le_refl number)) raw
      have later : ∀ line : Nat, number + 1 ≤ line →
          ¬ (Read ⟨path, line⟩ ∨ (⟨path, line⟩ : Position) = ⟨path, number⟩) := by
        rintro line behind (read | same)
        · exact new line (Nat.le_of_succ_le behind) read
        · have numbers : (line : Int) = number := congrArg Position.line same
          omega
      rw [feed_lines_cons]
      refine (induction stepped (number + 1) later).mono ?_
      rintro place ((read | rfl) | inFile)
      · exact .inl read
      · exact .inr rfl
      · exact .inr inFile

theorem begin_file_gathered (state : Assembler) (place : Position) :
    standingAt place state.beginFile.finish.declarations =
      standingAt place state.finish.declarations := rfl

theorem placed_begin_file {Read : Position → Prop} {state : Assembler}
    (placed : Placed Read state) : Placed Read state.beginFile := by
  have fewer : ∀ place, state.beginFile.usesOf place ≤ state.usesOf place := by
    intro place
    rw [usesOf, begin_file_gathered, usesOf]
    exact Nat.le_trans (Nat.le_add_right _ _) (Nat.le_add_right _ _)
  refine ⟨consistent_begin_file state placed.consistent, ?_, ?_⟩
  · exact fun place => Nat.le_trans (fewer place) (placed.once place)
  · exact fun place used => placed.read place (Nat.lt_of_lt_of_le used (fewer place))

theorem placed_feed_files {Read : Position → Prop} {state : Assembler} (placed : Placed Read state)
    (files : List (String × List String)) (distinct : (files.map Prod.fst).Nodup)
    (new : ∀ place, Read place → place.path ∉ files.map Prod.fst) :
    Placed (fun place => Read place ∨ place.path ∈ files.map Prod.fst)
      (state.feedFiles files) := by
  induction files generalizing state Read with
  | nil => exact placed.mono fun place => .inl
  | cons file rest induction =>
      obtain ⟨other, distinct⟩ := List.nodup_cons.mp distinct
      have unread : ∀ line : Nat, 0 ≤ line → ¬ Read ⟨file.1, line⟩ :=
        fun line _ read => new _ read List.mem_cons_self
      have begun := placed_feed_lines (placed_begin_file placed) file.1 0 unread file.2
      have later : ∀ place : Position, Read place ∨ place.path = file.1 →
          place.path ∉ rest.map Prod.fst := by
        rintro place (read | inFile) listed
        · exact new place read (List.mem_cons_of_mem _ listed)
        · exact other (inFile ▸ listed)
      refine (induction begun distinct later).mono ?_
      rintro place ((read | inFile) | listed)
      · exact .inl read
      · exact .inr (inFile ▸ List.mem_cons_self)
      · exact .inr (List.mem_cons_of_mem _ listed)

end Assembler

theorem position_of_declaration {files : List (String × List String)} {declaration : Declaration}
    (listed : declaration ∈ (assemble files).declarations) :
    ∃ place, declaration.position = some place := by
  have gathered : declaration.origin ∈ (Assembler.feedFiles {} files).origins :=
    (Assembler.mem_origins _ _).mpr (.inl ⟨declaration, listed, rfl⟩)
  obtain ⟨earlier, path, lines, later, number, _, raw, operation, others, _, _, opening⟩ :=
    Assembler.origins_feed_files files declaration.origin gathered
  exact ⟨⟨path, number⟩, opening.position⟩

/-- In files of different paths no two declarations have the same position. -/
theorem positions_distinct {files : List (String × List String)}
    (distinct : (files.map Prod.fst).Nodup) :
    ((assemble files).declarations.map Declaration.position).Nodup := by
  have start : Assembler.Placed (fun _ => False) {} :=
    ⟨Assembler.consistent_feed_all [], fun _ => Nat.zero_le 1,
      fun _ used => absurd used (Nat.lt_irrefl 0)⟩
  have placed := Assembler.placed_feed_files start files distinct fun _ read => read.elim
  rw [List.nodup_iff_count_le_one]
  intro position
  cases position with
  | none =>
      rw [List.count_eq_zero.mpr]
      · exact Nat.zero_le 1
      · intro listed
        obtain ⟨declaration, member, unplaced⟩ := List.mem_map.mp listed
        obtain ⟨place, placed⟩ := position_of_declaration member
        cases unplaced.symm.trans placed
  | some place =>
      have gathered : standingAt place (assemble files).declarations ≤
          (Assembler.feedFiles {} files).usesOf place :=
        Nat.le_trans (Nat.le_add_right _ _) (Nat.le_add_right _ _)
      exact Nat.le_trans gathered (placed.once place)

end RpgSymbols
