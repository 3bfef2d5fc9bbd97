import RpgSymbols.Proofs.Source.Positions
import Mathlib.Data.List.Nodup
import Mathlib.Data.Prod.Lex

/-!
Collections in source order. A declaration is stored at its closing line, but it has the position of
its opening line. While it is open nothing of its kind is stored, so by their positions the
declarations of a kind are among the lines that were read, in the order they were read. Procedures
are the exception, since a definition takes the place of an earlier prototype.
-/

namespace RpgSymbols

def Model.collection (model : Model) : Kind → List Declaration
  | .constant => model.constants
  | .standalone => model.standalones
  | .dataStructure => model.structures
  | .procedure => model.procedures
  | .subroutine => model.subroutines
  | .subitem => []

def Draft.kind : Draft → Kind
  | .dataStructure _ => .dataStructure
  | .procedure _ => .procedure
  | .subroutine _ => .subroutine

def linePositions (path : String) (number : Nat) (lines : List String) : List Position :=
  (List.range' number lines.length).map fun line : Nat => ⟨path, line⟩

def readPositions (files : List (String × List String)) : List Position :=
  files.flatMap fun file => linePositions file.1 0 file.2

namespace Assembler

def openPosition (state : Assembler) (kind : Kind) : List (Option Position) :=
  match state.current with
  | none => []
  | some draft => if draft.kind = kind then [some draft.heading.position] else []

/-- The positions of a kind's declarations in the order they are stored, the open one last. -/
def sequence (state : Assembler) (kind : Kind) : List (Option Position) :=
  (state.finish.collection kind).map Declaration.position ++ state.openPosition kind

theorem sequence_with_docs (state : Assembler) (docs : DocumentationTracker) (kind : Kind) :
    { state with docs := docs }.sequence kind = state.sequence kind := rfl

/-- To store the open declaration changes no sequence. -/
theorem sequence_finalize (state : Assembler) {kind : Kind} (ordered : kind ≠ .procedure) :
    state.finalize.sequence kind = state.sequence kind := by
  cases opened : state.current with
  | none =>
      simp only [sequence, openPosition, finalize, opened]
      rfl
  | some draft =>
      cases draft with
      | dataStructure heading =>
          cases kind <;>
            simp [sequence, openPosition, finalize, opened, consumeDocs, finish, Model.collection,
              Draft.kind, Draft.heading, Heading.declare]
      | procedure draft =>
          cases kind <;>
            simp [sequence, openPosition, finalize, opened, consumeDocs, finish, Model.collection,
              Draft.kind] at ordered ⊢
      | subroutine heading =>
          cases kind <;>
            simp [sequence, openPosition, finalize, opened, consumeDocs, finish, Model.collection,
              Draft.kind, Draft.heading, Heading.declare]

/-- What is opened comes last, and what was open before is dropped. -/
theorem sequence_open (state : Assembler) (suspended : Option ProcedureDraft) (draft : Draft)
    (kind : Kind) :
    ((openDraft { state with suspended := suspended } draft).sequence kind).Sublist
      (state.sequence kind ++ [some draft.heading.position]) := by
  have stored : (openDraft { state with suspended := suspended } draft).finish.collection kind =
      state.finish.collection kind := rfl
  rw [sequence, stored, sequence, List.append_assoc]
  apply List.Sublist.append_left
  refine List.Sublist.trans ?_ (List.sublist_append_right _ _)
  simp only [openPosition, openDraft]
  split
  · exact List.Sublist.refl _
  · exact List.nil_sublist _

theorem sequence_replace {state : Assembler} {before : ProcedureDraft}
    (opened : state.current = some (.procedure before)) (after : ProcedureDraft) {kind : Kind}
    (ordered : kind ≠ .procedure) :
    { state with current := some (.procedure after) }.sequence kind = state.sequence kind := by
  have stored : { state with current := some (.procedure after) }.finish.collection kind =
      state.finish.collection kind := rfl
  simp only [sequence, stored, openPosition, opened, Draft.kind, ordered.symm, if_false]

/-- A line adds its own position at the end at most. -/
theorem sequence_effect {state next : Assembler} {position : Position} {raw : String}
    (effect : Effect state position raw next) {kind : Kind} (ordered : kind ≠ .procedure) :
    (next.sequence kind).Sublist (state.sequence kind ++ [some position]) := by
  have unchanged {later : Assembler} (same : later.sequence kind = state.sequence kind) :
      (later.sequence kind).Sublist (state.sequence kind ++ [some position]) := by
    rw [same]
    exact List.sublist_append_left _ _
  cases effect with
  | idle => exact unchanged rfl
  | marker reads => exact unchanged (sequence_with_docs _ _ _)
  | comment inert worded active => exact unchanged (sequence_with_docs _ _ _)
  | parameter inert worded opened reading => exact unchanged (sequence_replace opened _ ordered)
  | constant reads vacant =>
      cases kind <;>
        simp [sequence, openPosition, vacant, consumeDocs, finish, Model.collection,
          Heading.declare, Heading.of]
  | standalone reads vacant plain =>
      cases kind <;>
        simp [sequence, openPosition, vacant, consumeDocs, finish, Model.collection,
          Heading.declare, Heading.of]
  | pattern reads declares vacant template => exact unchanged (sequence_with_docs _ _ _)
  | structureBegun reads vacant plain lasts => exact sequence_open state state.suspended _ kind
  | structureLine reads vacant plain ends =>
      rw [sequence_finalize _ ordered]
      exact sequence_open state state.suspended _ kind
  | prototypeBegun reads vacant new lasts => exact sequence_open state state.suspended _ kind
  | prototypeLine reads vacant new ends =>
      rw [sequence_finalize _ ordered]
      exact sequence_open state state.suspended _ kind
  | procedureBegun reads => exact sequence_open state none _ kind
  | interfaceBegun reads opened => exact unchanged (sequence_replace opened _ ordered)
  | interfaceEnded reads opened => exact unchanged (sequence_replace opened _ ordered)
  | subroutineBegun reads new suspends retains => exact sequence_open state _ _ kind
  | structureEnded reads opened => exact unchanged (sequence_finalize state ordered)
  | procedureEnded reads closes opened => exact unchanged (sequence_finalize state ordered)
  | subroutineEnded reads opened =>
      refine unchanged (Eq.trans ?_ (sequence_finalize state ordered))
      -- The procedure that is open again has no place in the sequence.
      cases resumed : state.suspended with
      | none => rfl
      | some draft =>
          have stored : { state.finalize with
              current := some (.procedure draft), suspended := none }.finish.collection kind =
                state.finalize.finish.collection kind := rfl
          simp only [sequence, Option.map_some, stored, openPosition, current_finalize,
            Draft.kind, ordered.symm, if_false]

theorem sequence_feed_lines (path : String) (state : Assembler) (number : Nat)
    (lines : List String) {kind : Kind} (ordered : kind ≠ .procedure) :
    ((feedLines path state number lines).sequence kind).Sublist
      (state.sequence kind ++ (linePositions path number lines).map some) := by
  induction lines generalizing state number with
  | nil =>
      rw [linePositions, List.length_nil, List.range'_zero, List.map_nil, List.map_nil,
        List.append_nil]
      exact List.Sublist.refl _
  | cons raw rest induction =>
      have stepped := sequence_effect (feed_line_effect state ⟨path, number⟩ raw) ordered
      have later := induction (state.feedLine ⟨path, number⟩ raw) (number + 1)
      rw [feed_lines_cons, linePositions, List.length_cons, List.range'_succ, List.map_cons,
        List.map_cons, List.append_cons]
      exact later.trans (List.Sublist.append_right stepped _)

theorem sequence_begin_file (state : Assembler) (kind : Kind) :
    (state.beginFile.sequence kind).Sublist (state.sequence kind) := by
  have stored : state.beginFile.finish.collection kind = state.finish.collection kind := rfl
  rw [sequence, stored, sequence]
  exact List.Sublist.append_left (List.nil_sublist _) _

theorem sequence_feed_files (state : Assembler) (files : List (String × List String))
    {kind : Kind} (ordered : kind ≠ .procedure) :
    ((state.feedFiles files).sequence kind).Sublist
      (state.sequence kind ++ (readPositions files).map some) := by
  induction files generalizing state with
  | nil =>
      rw [readPositions, List.flatMap_nil, List.map_nil, List.append_nil]
      exact List.Sublist.refl _
  | cons file rest induction =>
      have read := sequence_feed_lines file.1 state.beginFile 0 file.2 ordered
      have begun := List.Sublist.append_right (sequence_begin_file state kind)
        ((linePositions file.1 0 file.2).map some)
      have later := induction (state.feedFile file.1 file.2)
      rw [readPositions, List.flatMap_cons, List.map_append, ← List.append_assoc]
      exact later.trans (List.Sublist.append_right (read.trans begun) _)

end Assembler

/-- By their positions, the declarations of a kind are among the lines in the order they are
read. -/
theorem collection_positions (files : List (String × List String)) {kind : Kind}
    (ordered : kind ≠ .procedure) :
    (((assemble files).collection kind).map Declaration.position).Sublist
      ((readPositions files).map some) := by
  have run := Assembler.sequence_feed_files {} files ordered
  have start : (({} : Assembler).sequence kind) = [] := by cases kind <;> rfl
  rw [start, List.nil_append] at run
  exact (List.sublist_append_left _ _).trans run

/-- Where a position stands in the source: the place of its file among the files, and its line. -/
def sourceRank (files : List (String × List String)) (position : Position) : Nat ×ₗ Int :=
  toLex ((files.map Prod.fst).idxOf position.path, position.line)

theorem line_positions_increasing (files : List (String × List String)) (path : String)
    (number : Nat) (lines : List String) :
    (linePositions path number lines).Pairwise fun before after =>
      sourceRank files before < sourceRank files after := by
  rw [linePositions, List.pairwise_map]
  refine (List.pairwise_lt_range' 1 Nat.one_pos).imp ?_
  intro before after earlier
  apply Prod.Lex.toLex_lt_toLex.mpr
  exact .inr ⟨rfl, Int.ofNat_lt.mpr earlier⟩

/-- Different paths have their places in the order they stand in. -/
theorem paths_increasing {paths : List String} (distinct : paths.Nodup) :
    paths.Pairwise fun before after => paths.idxOf before < paths.idxOf after := by
  rw [List.pairwise_iff_getElem]
  intro first second bound bound' earlier
  rw [distinct.idxOf_getElem first bound, distinct.idxOf_getElem second bound']
  exact earlier

theorem path_of_line_position {path : String} {number : Nat} {lines : List String}
    {position : Position} (listed : position ∈ linePositions path number lines) :
    position.path = path := by
  obtain ⟨line, _, rfl⟩ := List.mem_map.mp listed
  rfl

theorem read_positions_increasing {files : List (String × List String)}
    (distinct : (files.map Prod.fst).Nodup) :
    (readPositions files).Pairwise fun before after =>
      sourceRank files before < sourceRank files after := by
  rw [readPositions, List.pairwise_flatMap]
  refine ⟨fun file _ => line_positions_increasing files file.1 0 file.2, ?_⟩
  refine (List.pairwise_map.mp (paths_increasing distinct)).imp ?_
  intro file later earlier before inFile after inLater
  apply Prod.Lex.toLex_lt_toLex.mpr
  rw [path_of_line_position inFile, path_of_line_position inLater]
  exact .inl earlier

/-- Declarations that stand in the source one behind the other. -/
def InSourceOrder (files : List (String × List String)) (declarations : List Declaration) : Prop :=
  declarations.Pairwise fun one other => ∃ before after,
    one.position = some before ∧ other.position = some after ∧
      sourceRank files before < sourceRank files after

theorem collection_in_source_order {files : List (String × List String)}
    (distinct : (files.map Prod.fst).Nodup) {kind : Kind} (ordered : kind ≠ .procedure) :
    InSourceOrder files ((assemble files).collection kind) := by
  have increasing : ((readPositions files).map some).Pairwise fun one other =>
      ∃ before after, one = some before ∧ other = some after ∧
        sourceRank files before < sourceRank files after := by
    rw [List.pairwise_map]
    exact (read_positions_increasing distinct).imp fun before => ⟨_, _, rfl, rfl, before⟩
  exact List.pairwise_map.mp (increasing.sublist (collection_positions files ordered))

/-- In files of different paths no two declarations have the same position, and every collection but
that of the procedures is in source order. -/
theorem positions_in_source_order {files : List (String × List String)}
    (distinct : (files.map Prod.fst).Nodup) :
    ((assemble files).declarations.map Declaration.position).Nodup ∧
      InSourceOrder files (assemble files).constants ∧
      InSourceOrder files (assemble files).standalones ∧
      InSourceOrder files (assemble files).structures ∧
      InSourceOrder files (assemble files).subroutines := by
  have inOrder (kind : Kind) (ordered : kind ≠ .procedure) :=
    collection_in_source_order distinct ordered
  exact ⟨positions_distinct distinct, inOrder .constant (by decide), inOrder .standalone (by decide),
    inOrder .dataStructure (by decide), inOrder .subroutine (by decide)⟩

/-- A subroutine that ends before the procedure around it, and a structure that is left open, in a
file that is read before one of a smaller path. -/
def interleavedFiles : List (String × List String) := [
  ("/B", ["dcl-c first 1;", "dcl-ds a;", "end-ds;", "dcl-proc p;", "begsr inner;", "endsr;",
    "end-proc;", "dcl-ds unfinished;"]),
  ("/A", ["dcl-c second 2;", "dcl-ds b end-ds;", "begsr outer;", "endsr;", "dcl-pr p;",
    "end-pr;"])]

theorem interleaved_files_in_order :
    (interleavedFiles.map Prod.fst).Nodup ∧
      (assemble interleavedFiles).constants.map Declaration.position =
        [some ⟨"/B", 0⟩, some ⟨"/A", 0⟩] ∧
      (assemble interleavedFiles).subroutines.map Declaration.position =
        [some ⟨"/B", 4⟩, some ⟨"/A", 2⟩] ∧
      ((assemble interleavedFiles).declarations.map Declaration.position).Nodup ∧
      InSourceOrder interleavedFiles (assemble interleavedFiles).constants ∧
      InSourceOrder interleavedFiles (assemble interleavedFiles).structures ∧
      InSourceOrder interleavedFiles (assemble interleavedFiles).subroutines := by
  have distinct : (interleavedFiles.map Prod.fst).Nodup := by decide
  have placed : (assemble interleavedFiles).constants.map Declaration.position =
        [some ⟨"/B", 0⟩, some ⟨"/A", 0⟩] ∧
      (assemble interleavedFiles).subroutines.map Declaration.position =
        [some ⟨"/B", 4⟩, some ⟨"/A", 2⟩] := by decide
  obtain ⟨apart, constants, _, structures, subroutines⟩ := positions_in_source_order distinct
  exact ⟨distinct, placed.1, placed.2, apart, constants, structures, subroutines⟩

end RpgSymbols
