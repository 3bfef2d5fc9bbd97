import RpgSymbols.Proofs.Source.Effect
import Mathlib.Data.List.Induction

/-!
Where declarations come from. The opening line of a declaration settles its kind, its name, its
documentation and its position for good; whatever is read afterwards changes keywords and
parameters alone. So every declaration of a model goes back to one line and to the state the
assembler was in when it read that line.
-/

namespace RpgSymbols

open Text

/-- What the opening line of a declaration settles for good. -/
structure Origin where
  kind : Kind
  name : String
  docs : Documentation
  position : Option Position
  deriving DecidableEq, Repr

def Declaration.origin (declaration : Declaration) : Origin :=
  ⟨declaration.kind, declaration.name,
    ⟨declaration.title, declaration.description, declaration.tags⟩, declaration.position⟩

def Heading.origin (heading : Heading) (kind : Kind) : Origin :=
  ⟨kind, heading.name, heading.docs, some heading.position⟩

def ProcedureDraft.origin (draft : ProcedureDraft) : Origin := draft.heading.origin .procedure

def Draft.origin : Draft → Origin
  | .dataStructure heading => heading.origin .dataStructure
  | .procedure draft => draft.origin
  | .subroutine heading => heading.origin .subroutine

@[simp] theorem Heading.origin_declare (heading : Heading) (kind : Kind)
    (subItems : List Declaration) :
    (heading.declare kind subItems).origin = heading.origin kind := rfl

@[simp] theorem ProcedureDraft.origin_finish (draft : ProcedureDraft) :
    draft.finish.origin = draft.origin := rfl

@[simp] theorem ProcedureDraft.origin_begin_interface (draft : ProcedureDraft)
    (display : List String) (oneLine : Bool) :
    (draft.beginInterface display oneLine).origin = draft.origin := rfl

@[simp] theorem ProcedureDraft.origin_add_parameter (draft : ProcedureDraft)
    (words : List String) (position : Position) :
    (draft.addParameter words position).origin = draft.origin := rfl

def Operation.kind? : Operation → Option Kind
  | .constant => some .constant
  | .standalone => some .standalone
  | .openStructure => some .dataStructure
  | .openPrototype => some .procedure
  | .openProcedure => some .procedure
  | .openSubroutine => some .subroutine
  | _ => none

/-- An instruction that opens a declaration of the given origin. Only the body of a procedure and a
subroutine are opened while another declaration is open. -/
structure Opening (state : Assembler) (operation : Operation) (others : List String)
    (position : Position) (origin : Origin) : Prop where
  kind : operation.kind? = some origin.kind
  name : others.head? = some origin.name
  docs : origin.docs = state.docs.snapshot
  position : origin.position = some position
  vacant : state.current = none ∨ operation = .openProcedure ∨ operation = .openSubroutine
  pattern : operation = .standalone ∨ operation = .openStructure →
    templateKeyword ∉ others.tail.map upper

namespace Assembler

def origins (state : Assembler) : List Origin :=
  state.finish.declarations.map Declaration.origin ++ state.current.toList.map Draft.origin ++
    state.suspended.toList.map ProcedureDraft.origin

theorem mem_origins (state : Assembler) (origin : Origin) :
    origin ∈ state.origins ↔
      (∃ declaration ∈ state.finish.declarations, declaration.origin = origin) ∨
      (∃ draft, state.current = some draft ∧ draft.origin = origin) ∨
      (∃ draft, state.suspended = some draft ∧ draft.origin = origin) := by
  simp [origins]

theorem mem_declarations (state : Assembler) (declaration : Declaration) :
    declaration ∈ state.finish.declarations ↔
      declaration ∈ state.constants ∨ declaration ∈ state.standalones ∨
      declaration ∈ state.structures ∨ declaration ∈ state.procedures.toList ∨
      declaration ∈ state.subroutines := by
  simp [finish, Model.declarations]

end Assembler

theorem ProcedureIndex.mem_add {index : ProcedureIndex} {added declaration : Declaration}
    {form : ProcedureForm} (member : declaration ∈ (index.add added form).toList) :
    declaration ∈ index.toList ∨ declaration = added := by
  simp only [ProcedureIndex.toList, ProcedureIndex.add] at member ⊢
  split at member
  · simpa [or_comm] using member
  · split at member
    · simp only [List.map_map, List.mem_map, Function.comp_apply] at member
      obtain ⟨entry, present, same⟩ := member
      split at same
      · exact .inr same.symm
      · exact .inl (List.mem_map.mpr ⟨entry, present, same⟩)
    · exact .inl member

namespace Assembler

/-- What is completed is stored among the procedures only if it is one. -/
theorem procedures_finalize {state : Assembler} {procedure : Declaration}
    (listed : procedure ∈ state.finalize.procedures.toList) :
    procedure ∈ state.procedures.toList ∨
      ∃ draft, state.current = some (.procedure draft) ∧ procedure = draft.finish := by
  cases opened : state.current with
  | none =>
      simp only [finalize, opened] at listed
      exact .inl listed
  | some draft =>
      cases draft with
      | procedure draft =>
          simp only [finalize, opened] at listed
          exact (ProcedureIndex.mem_add listed).imp id fun added => ⟨draft, rfl, added⟩
      | _ =>
          simp only [finalize, opened] at listed
          exact .inl listed

theorem origins_with_docs (state : Assembler) (docs : DocumentationTracker) :
    { state with docs := docs }.origins = state.origins := rfl

theorem origins_consume_docs (state : Assembler) :
    state.consumeDocs.origins = state.origins := rfl

/-- Completing a declaration moves its origin and adds none. -/
theorem origins_finalize (state : Assembler) (origin : Origin)
    (member : origin ∈ state.finalize.origins) : origin ∈ state.origins := by
  rw [mem_origins] at member ⊢
  simp only [mem_declarations] at member ⊢
  cases opened : state.current with
  | none => simpa [finalize, opened, consumeDocs] using member
  | some draft =>
      cases draft with
      | dataStructure heading =>
          simp only [finalize, opened, consumeDocs, List.mem_append] at member
          grind [Draft.origin, Heading.origin_declare]
      | procedure draft =>
          simp only [finalize, opened, consumeDocs] at member
          grind [Draft.origin, ProcedureDraft.origin_finish, ProcedureIndex.mem_add]
      | subroutine heading =>
          simp only [finalize, opened, consumeDocs, List.mem_append] at member
          grind [Draft.origin, Heading.origin_declare]

theorem origins_gather_constant (state : Assembler) (heading : Heading) (origin : Origin)
    (member : origin ∈ (consumeDocs { state with
      constants := state.constants ++ [heading.declare .constant []] }).origins) :
    origin ∈ state.origins ∨ origin = heading.origin .constant := by
  rw [origins_consume_docs, mem_origins] at member
  rw [mem_origins]
  simp only [mem_declarations, List.mem_append, List.mem_singleton] at member ⊢
  grind [Heading.origin_declare]

theorem origins_gather_standalone (state : Assembler) (heading : Heading) (origin : Origin)
    (member : origin ∈ (consumeDocs { state with
      standalones := state.standalones ++ [heading.declare .standalone []] }).origins) :
    origin ∈ state.origins ∨ origin = heading.origin .standalone := by
  rw [origins_consume_docs, mem_origins] at member
  rw [mem_origins]
  simp only [mem_declarations, List.mem_append, List.mem_singleton] at member ⊢
  grind [Heading.origin_declare]

/-- What is open may give way to another draft, and what is suspended to the open procedure. -/
theorem origins_open_draft (state : Assembler) (suspended : Option ProcedureDraft) (draft : Draft)
    (resumable : ∀ procedure, suspended = some procedure → procedure.origin ∈ state.origins)
    (origin : Origin)
    (member : origin ∈ (openDraft { state with suspended := suspended } draft).origins) :
    origin ∈ state.origins ∨ origin = draft.origin := by
  rw [mem_origins] at member
  simp only [openDraft] at member
  rcases member with gathered | ⟨opened, same, rfl⟩ | ⟨procedure, same, rfl⟩
  · exact .inl ((mem_origins _ _).mpr (.inl gathered))
  · exact .inr (congrArg Draft.origin (Option.some.inj same)).symm
  · exact .inl (resumable procedure same)

theorem origin_of_suspended (state : Assembler) (procedure : ProcedureDraft)
    (suspends : state.suspended = some procedure) : procedure.origin ∈ state.origins :=
  (mem_origins _ _).mpr (.inr (.inr ⟨procedure, suspends, rfl⟩))

theorem origin_of_current (state : Assembler) (draft : Draft)
    (opened : state.current = some draft) : draft.origin ∈ state.origins :=
  (mem_origins _ _).mpr (.inr (.inl ⟨draft, opened, rfl⟩))

/-- The open procedure may change its keywords and parameters; its origin stays. -/
theorem origins_replace_procedure (state : Assembler) (before after : ProcedureDraft)
    (opened : state.current = some (.procedure before)) (same : after.origin = before.origin)
    (origin : Origin)
    (member : origin ∈ { state with current := some (.procedure after) }.origins) :
    origin ∈ state.origins := by
  rw [mem_origins] at member ⊢
  simp only [mem_declarations] at member ⊢
  grind [Draft.origin]

theorem origins_resume (state : Assembler) (origin : Origin)
    (member : origin ∈ { state with
      current := state.suspended.map .procedure, suspended := none }.origins) :
    origin ∈ state.origins := by
  rw [mem_origins] at member
  rcases member with gathered | ⟨draft, resumed, rfl⟩ | ⟨_, absurdity, _⟩
  · exact (mem_origins _ _).mpr (.inl gathered)
  · obtain ⟨procedure, suspends, rfl⟩ := Option.map_eq_some_iff.mp resumed
    exact origin_of_suspended state procedure suspends
  · cases absurdity

/-- A line leaves the origins as they are, or adds the one it opens. -/
theorem origins_of_effect {state next : Assembler} {position : Position} {raw : String}
    (effect : Effect state position raw next) (origin : Origin)
    (member : origin ∈ next.origins) :
    origin ∈ state.origins ∨ ∃ operation others,
      instruction? raw = some (operation, others) ∧
        Opening state operation others position origin := by
  have keeps := origin_of_suspended state
  cases effect with
  | idle => exact .inl member
  | marker reads =>
      rw [origins_with_docs] at member
      exact .inl member
  | comment inert worded active =>
      rw [origins_with_docs] at member
      exact .inl member
  | parameter inert worded opened reading =>
      exact .inl (origins_replace_procedure state _ _ opened
        (ProcedureDraft.origin_add_parameter _ _ _) origin member)
  | constant reads vacant =>
      rcases origins_gather_constant _ _ _ member with old | rfl
      · exact .inl old
      · exact .inr ⟨_, _, reads, rfl, rfl, rfl, rfl, .inl vacant, by simp⟩
  | standalone reads vacant plain =>
      rcases origins_gather_standalone _ _ _ member with old | rfl
      · exact .inl old
      · exact .inr ⟨_, _, reads, rfl, rfl, rfl, rfl, .inl vacant, fun _ => plain⟩
  | pattern reads declares vacant template => exact .inl member
  | structureBegun reads vacant plain lasts =>
      rcases origins_open_draft state _ _ keeps origin member with old | rfl
      · exact .inl old
      · exact .inr ⟨_, _, reads, rfl, rfl, rfl, rfl, .inl vacant, fun _ => plain⟩
  | structureLine reads vacant plain ends =>
      rcases origins_open_draft state _ _ keeps origin (origins_finalize _ _ member) with old | rfl
      · exact .inl old
      · exact .inr ⟨_, _, reads, rfl, rfl, rfl, rfl, .inl vacant, fun _ => plain⟩
  | prototypeBegun reads vacant new lasts =>
      rcases origins_open_draft state _ _ keeps origin member with old | rfl
      · exact .inl old
      · exact .inr ⟨_, _, reads, rfl, rfl, rfl, rfl, .inl vacant, by simp⟩
  | prototypeLine reads vacant new ends =>
      rcases origins_open_draft state _ _ keeps origin (origins_finalize _ _ member) with old | rfl
      · exact .inl old
      · exact .inr ⟨_, _, reads, rfl, rfl, rfl, rfl, .inl vacant, by simp⟩
  | procedureBegun reads =>
      rcases origins_open_draft state none _ (by simp) origin member with old | rfl
      · exact .inl old
      · exact .inr ⟨_, _, reads, rfl, rfl, rfl, rfl, .inr (.inl rfl), by simp⟩
  | interfaceBegun reads opened =>
      exact .inl (origins_replace_procedure state _ _ opened
        (ProcedureDraft.origin_begin_interface _ _ _) origin member)
  | interfaceEnded reads opened =>
      exact .inl (origins_replace_procedure state _ _ opened rfl origin member)
  | @subroutineBegun _ _ suspended reads new suspends retains =>
      have resumable : ∀ procedure, suspended = some procedure →
          procedure.origin ∈ state.origins := by
        intro procedure same
        by_cases inBody : ∃ draft, state.current = some (.procedure draft)
        · obtain ⟨draft, opened⟩ := inBody
          rw [suspends draft opened] at same
          cases same
          exact origin_of_current state _ opened
        · exact keeps procedure ((retains (not_exists.mp inBody)).symm.trans same)
      rcases origins_open_draft state suspended _ resumable origin member with old | rfl
      · exact .inl old
      · exact .inr ⟨_, _, reads, rfl, rfl, rfl, rfl, .inr (.inr rfl), by simp⟩
  | structureEnded reads opened => exact .inl (origins_finalize _ _ member)
  | procedureEnded reads closes opened => exact .inl (origins_finalize _ _ member)
  | subroutineEnded reads opened =>
      rw [← suspended_finalize] at member
      exact .inl (origins_finalize _ _ (origins_resume _ _ member))

/-- Line `number` of a file, read behind the `earlier` files, opens a declaration of this origin. -/
def OpenedAt (earlier : List (String × List String)) (path : String) (lines : List String)
    (number : Nat) (origin : Origin) : Prop :=
  ∃ raw operation others, lines[number]? = some raw ∧
    instruction? raw = some (operation, others) ∧
    Opening (atLine earlier path lines number) operation others ⟨path, number⟩ origin

theorem origins_at_line (earlier : List (String × List String)) (path : String)
    (lines : List String) (number : Nat) (bound : number ≤ lines.length) (origin : Origin)
    (member : origin ∈ (atLine earlier path lines number).origins) :
    origin ∈ (feedFiles {} earlier).origins ∨
      ∃ opener < number, OpenedAt earlier path lines opener origin := by
  induction number with
  | zero =>
      rw [at_line_zero] at member
      refine .inl ((mem_origins _ _).mpr (.inl ?_))
      simpa [mem_origins, beginFile, finish] using member
  | succ number induction =>
      have inFile : number < lines.length := bound
      have written : lines[number]? = some lines[number] := List.getElem?_eq_getElem inFile
      rw [at_line_succ written] at member
      rcases origins_of_effect (feed_line_effect _ _ _) _ member with
          old | ⟨operation, others, reads, opening⟩
      · rcases induction (Nat.le_of_lt inFile) old with before | ⟨opener, earlierLine, opened⟩
        · exact .inl before
        · exact .inr ⟨opener, Nat.lt_succ_of_lt earlierLine, opened⟩
      · exact .inr ⟨number, Nat.lt_succ_self number, lines[number], operation, others,
          written, reads, opening⟩

theorem feed_files_append (state : Assembler) (first second : List (String × List String)) :
    feedFiles state (first ++ second) = feedFiles (feedFiles state first) second := by
  simp only [feedFiles, List.foldl_append]

/-- Everything gathered goes back to a line that opens it. -/
theorem origins_feed_files (files : List (String × List String)) (origin : Origin)
    (member : origin ∈ (feedFiles {} files).origins) :
    ∃ earlier path lines later number,
      files = earlier ++ (path, lines) :: later ∧ OpenedAt earlier path lines number origin := by
  induction files using List.reverseRecOn with
  | nil => simp [feedFiles, origins, finish, Model.declarations, ProcedureIndex.toList] at member
  | append_singleton earlier file induction =>
      obtain ⟨path, lines⟩ := file
      rw [feed_files_append] at member
      change origin ∈ ((feedFiles {} earlier).feedFile path lines).origins at member
      rw [← at_line_length] at member
      rcases origins_at_line _ _ _ _ (Nat.le_refl _) _ member with old | ⟨number, _, opened⟩
      · obtain ⟨before, otherPath, otherLines, later, number, split, opened⟩ := induction old
        exact ⟨before, otherPath, otherLines, later ++ [(path, lines)], number,
          by simp [split], opened⟩
      · exact ⟨earlier, path, lines, [], number, rfl, opened⟩

end Assembler

/-- Where the keys are different, a key is found in one place only. -/
theorem split_at_key {Value : Type} (first second : String × Value)
    (before behind left right : List (String × Value))
    (distinct : ((before ++ first :: behind).map Prod.fst).Nodup)
    (same : before ++ first :: behind = left ++ second :: right)
    (key : first.1 = second.1) : before = left ∧ first = second := by
  induction before generalizing left with
  | nil =>
      cases left with
      | nil => exact ⟨rfl, (List.cons.inj same).1⟩
      | cons entry left =>
          obtain ⟨rfl, rfl⟩ := List.cons.inj same
          simp [key] at distinct
  | cons entry before induction =>
      cases left with
      | nil =>
          obtain ⟨rfl, rfl⟩ := List.cons.inj same
          simp [key] at distinct
      | cons other left =>
          obtain ⟨rfl, rest⟩ := List.cons.inj same
          obtain ⟨rfl, rfl⟩ := induction left (List.nodup_cons.mp distinct).2 rest
          exact ⟨rfl, rfl⟩

/-- A declaration of a model was opened by the line at its position. The names of the files are
different, so a position is in one file only. -/
theorem opened_at_position (earlier later : List (String × List String)) (path : String)
    (lines : List String)
    (distinct : ((earlier ++ (path, lines) :: later).map Prod.fst).Nodup)
    (declaration : Declaration)
    (member : declaration ∈ (assemble (earlier ++ (path, lines) :: later)).declarations)
    (number : Nat) (placed : declaration.position = some ⟨path, number⟩) :
    Assembler.OpenedAt earlier path lines number declaration.origin := by
  have gathered : declaration.origin ∈
      (Assembler.feedFiles {} (earlier ++ (path, lines) :: later)).origins :=
    (Assembler.mem_origins _ _).mpr (.inl ⟨declaration, member, rfl⟩)
  obtain ⟨before, otherPath, otherLines, behind, opener, split, opened⟩ :=
    Assembler.origins_feed_files _ _ gathered
  obtain ⟨raw, operation, others, written, reads, opening⟩ := opened
  have samePlace : (⟨otherPath, opener⟩ : Position) = ⟨path, number⟩ :=
    Option.some.inj (opening.position.symm.trans placed)
  cases samePlace
  obtain ⟨rfl, same⟩ := split_at_key _ _ _ _ _ _ distinct split rfl
  cases same
  exact ⟨raw, operation, others, written, reads, opening⟩

end RpgSymbols
