import RpgSymbols.Proofs.Source.Effect
import RpgSymbols.Proofs.Source.OnePerName

/-!
A subroutine inside a procedure. A new one suspends the procedure, and its end resumes it; one whose
name is known is passed over, and its end finds no subroutine to close. Whatever stands in between,
both ways leave the procedure as it was: while a subroutine is open, or a procedure whose interface
is not being read, a line that neither begins nor ends anything around it speaks to the
documentation alone.
-/

namespace RpgSymbols

open Text

/-- The operations that begin or end a procedure, its interface or a subroutine. The end of a
prototype is among them, as it also ends a procedure; the beginning of one is not. -/
def enclosing : List Operation :=
  [.openProcedure, .openInterface, .closeInterface, .closePrototype, .closeProcedure,
    .openSubroutine, .closeSubroutine]

def InnerLine (raw : String) : Prop :=
  ∀ operation others, instruction? raw = some (operation, others) → operation ∉ enclosing

instance (raw : String) : Decidable (InnerLine raw) :=
  decidable_of_iff (∀ read ∈ instruction? raw, read.1 ∉ enclosing)
    ⟨fun inner operation others reads => inner (operation, others) reads,
      fun inner read reads => inner read.1 read.2 reads⟩

namespace Assembler

def feedPlaced (state : Assembler) (lines : List (Position × String)) : Assembler :=
  lines.foldl (fun now line => now.feedLine line.1 line.2) state

theorem feed_enclosed_placed (state : Assembler) (opening closing : Position × String)
    (body : List (Position × String)) :
    state.feedPlaced (opening :: (body ++ [closing])) =
      ((state.feedLine opening.1 opening.2).feedPlaced body).feedLine closing.1 closing.2 := by
  simp only [feedPlaced, List.foldl_cons, List.foldl_append, List.foldl_nil]

/-- What is open takes no notice of inner lines: a subroutine, or a procedure whose interface is
not being read. -/
inductive Unheeding (state : Assembler) : Prop
  | subroutine (heading : Heading) (opened : state.current = some (.subroutine heading))
  | procedure (draft : ProcedureDraft) (opened : state.current = some (.procedure draft))
      (closed : draft.reading = false)

section Inner

variable {state : Assembler}

theorem Unheeding.occupied (unheeding : state.Unheeding) : state.current ≠ none := by
  cases unheeding with
  | subroutine heading opened => simp [opened]
  | procedure draft opened closed => simp [opened]

theorem Unheeding.with_docs (unheeding : state.Unheeding) (docs : DocumentationTracker) :
    { state with docs := docs }.Unheeding := by
  cases unheeding with
  | subroutine heading opened => exact .subroutine heading opened
  | procedure draft opened closed => exact .procedure draft opened closed

theorem inner_effect {next : Assembler} {position : Position} {raw : String}
    (effect : Effect state position raw next) (inner : InnerLine raw)
    (unheeding : state.Unheeding) : ∃ docs, next = { state with docs := docs } := by
  have occupied := unheeding.occupied
  cases effect with
  | idle => exact ⟨state.docs, rfl⟩
  | marker reads => exact ⟨_, rfl⟩
  | comment inert worded active => exact ⟨_, rfl⟩
  | parameter inert worded opened reading =>
      cases unheeding with
      | subroutine heading other => simp [opened] at other
      | procedure draft same closed =>
          cases opened.symm.trans same
          rw [closed] at reading
          cases reading
  | constant reads vacant => exact absurd vacant occupied
  | standalone reads vacant plain => exact absurd vacant occupied
  | pattern reads declares vacant template => exact absurd vacant occupied
  | structureBegun reads vacant plain lasts => exact absurd vacant occupied
  | structureLine reads vacant plain ends => exact absurd vacant occupied
  | prototypeBegun reads vacant new lasts => exact absurd vacant occupied
  | prototypeLine reads vacant new ends => exact absurd vacant occupied
  | structureEnded reads opened =>
      cases unheeding with
      | subroutine heading other => simp [opened] at other
      | procedure draft other closed => simp [opened] at other
  | procedureBegun reads => exact absurd (by decide) (inner _ _ reads)
  | interfaceBegun reads opened => exact absurd (by decide) (inner _ _ reads)
  | interfaceEnded reads opened => exact absurd (by decide) (inner _ _ reads)
  | subroutineBegun reads new suspends keeps => exact absurd (by decide) (inner _ _ reads)
  | procedureEnded reads closes opened =>
      rcases closes with rfl | rfl
      · exact absurd (by decide) (inner _ _ reads)
      · exact absurd (by decide) (inner _ _ reads)
  | subroutineEnded reads opened => exact absurd (by decide) (inner _ _ reads)

theorem inner_run {body : List (Position × String)} (inner : ∀ line ∈ body, InnerLine line.2)
    (unheeding : state.Unheeding) : ∃ docs, state.feedPlaced body = { state with docs := docs } := by
  induction body generalizing state with
  | nil => exact ⟨state.docs, rfl⟩
  | cons line rest induction =>
      obtain ⟨now, later⟩ := List.forall_mem_cons.mp inner
      obtain ⟨docs, same⟩ :=
        inner_effect (feed_line_effect state line.1 line.2) now unheeding
      obtain ⟨final, ended⟩ := induction later (same ▸ unheeding.with_docs docs)
      refine ⟨final, ?_⟩
      rw [feedPlaced, List.foldl_cons, ← feedPlaced, ended, same]

end Inner

section Subroutine

variable {state : Assembler} {draft : ProcedureDraft} {opening closing : Position × String}
  {body : List (Position × String)} {name : String} {display others : List String}
  (opened : state.current = some (.procedure draft))
  (begins : instruction? opening.2 = some (.openSubroutine, name :: display))
  (inner : ∀ line ∈ body, InnerLine line.2)
  (ends : instruction? closing.2 = some (.closeSubroutine, others))
include opened begins inner ends

/-- Neither the beginning nor the end of a known subroutine has an effect. -/
theorem feed_known_inside (closed : draft.reading = false)
    (known : upper name ∈ state.subroutines.map Declaration.key) :
    ∃ docs, state.feedPlaced (opening :: (body ++ [closing])) = { state with docs := docs } := by
  obtain ⟨docs, ran⟩ := inner_run inner (.procedure draft opened closed)
  refine ⟨docs, ?_⟩
  rw [feed_enclosed_placed, feed_subroutine_known begins ((named_any_iff _ _).mpr known), ran,
    feed_line_of_instruction ends]
  simp only [perform, onCloseSubroutine, opened]

/-- The procedure is suspended while a new subroutine is read, and then it is open again. -/
theorem feed_new_inside (alone : state.suspended = none)
    (new : upper name ∉ state.subroutines.map Declaration.key) :
    ∃ docs, state.feedPlaced (opening :: (body ++ [closing])) = { state with
      docs := docs
      subroutines := state.subroutines ++
        [(Heading.of name [] state.docs.snapshot opening.1).declare .subroutine []] } := by
  have unknown := Bool.not_eq_true _ ▸ mt (named_any_iff state.subroutines name).mp new
  have suspends : (openDraft { state with suspended := some draft }
      (.subroutine (Heading.of name [] state.docs.snapshot opening.1))).Unheeding :=
    .subroutine _ rfl
  obtain ⟨docs, ran⟩ := inner_run inner suspends
  refine ⟨docs.reset, ?_⟩
  rw [feed_enclosed_placed, feed_subroutine_inside begins opened unknown, ran,
    feed_end_subroutine ends rfl]
  simp only [finalize, openDraft, consumeDocs, Option.map_some, opened, alone]

end Subroutine

/-- A procedure is open, its interface is not being read, and nothing is suspended. Behind a
subroutine with any inner lines the same procedure is open, just as it was, and nothing is
suspended. Only the documentation may differ, and the subroutine is gathered, with the documentation
and the position of its first line, unless its name is known. -/
theorem subroutine_leaves_procedure (state : Assembler) (opening closing : Position × String)
    {draft : ProcedureDraft} {body : List (Position × String)} {name : String}
    {display others : List String} (opened : state.current = some (.procedure draft))
    (closed : draft.reading = false) (alone : state.suspended = none)
    (begins : instruction? opening.2 = some (.openSubroutine, name :: display))
    (inner : ∀ line ∈ body, InnerLine line.2)
    (ends : instruction? closing.2 = some (.closeSubroutine, others)) :
    let after := state.feedPlaced (opening :: (body ++ [closing]))
    let subroutine := (Heading.of name [] state.docs.snapshot opening.1).declare .subroutine []
    (after.current = some (.procedure draft) ∧ after.suspended = none) ∧
      ∃ docs, after = { state with
        docs := docs
        subroutines :=
          if upper name ∈ state.subroutines.map Declaration.key then state.subroutines
          else state.subroutines ++ [subroutine] } := by
  intro after subroutine
  have result : ∃ docs, after = { state with
      docs := docs
      subroutines :=
        if upper name ∈ state.subroutines.map Declaration.key then state.subroutines
        else state.subroutines ++ [subroutine] } := by
    by_cases known : upper name ∈ state.subroutines.map Declaration.key
    · simp only [if_pos known]
      exact feed_known_inside opened begins inner ends closed known
    · simp only [if_neg known]
      exact feed_new_inside opened begins inner ends alone known
  refine ⟨?_, result⟩
  obtain ⟨docs, same⟩ := result
  rw [same]
  exact ⟨opened, alone⟩

/-- Local declarations, a prototype and a stray end stand in the subroutine, and a block of comments
between them. Its name is new, or known in another case. -/
theorem local_lines_leave_procedure :
    let draft : ProcedureDraft :=
      ⟨Heading.of "P" ["export"] {} ⟨"/a", 0⟩, .definition, false, []⟩
    let known : Declaration := { kind := .subroutine, name := "Old" }
    let state : Assembler := { current := some (.procedure draft), subroutines := [known] }
    let body : List (Position × String) :=
      [(⟨"/a", 2⟩, "dcl-s x int(10);"), (⟨"/a", 3⟩, "///"), (⟨"/a", 4⟩, "// Title"),
        (⟨"/a", 5⟩, "dcl-ds D;"), (⟨"/a", 6⟩, "end-ds; end-ds;"), (⟨"/a", 7⟩, "end-ds;"),
        (⟨"/a", 8⟩, "dcl-pr q;"), (⟨"/a", 9⟩, "x = 1;")]
    let after (opening : String) :=
      state.feedPlaced ((⟨"/a", 1⟩, opening) :: (body ++ [(⟨"/a", 10⟩, "endsr;")]))
    ((after "begsr New;").current = some (.procedure draft) ∧
      (after "begsr New;").subroutines.map Declaration.name = ["Old", "New"]) ∧
    ((after "begsr OLD;").current = some (.procedure draft) ∧
      (after "begsr OLD;").subroutines = [known]) := by
  intro draft known state body after
  have inner : ∀ line ∈ body, InnerLine line.2 := by decide +kernel
  have ends : instruction? "endsr;" = some (.closeSubroutine, []) := by decide +kernel
  have beginsNew : instruction? "begsr New;" = some (.openSubroutine, ["New"]) := by
    decide +kernel
  have beginsOld : instruction? "begsr OLD;" = some (.openSubroutine, ["OLD"]) := by
    decide +kernel
  have new : upper "New" ∉ state.subroutines.map Declaration.key := by decide +kernel
  have old : upper "OLD" ∈ state.subroutines.map Declaration.key := by decide +kernel
  obtain ⟨⟨openNew, _⟩, _, grown⟩ := subroutine_leaves_procedure state
    (⟨"/a", 1⟩, "begsr New;") (⟨"/a", 10⟩, "endsr;") rfl rfl rfl beginsNew inner ends
  obtain ⟨⟨openOld, _⟩, _, kept⟩ := subroutine_leaves_procedure state
    (⟨"/a", 1⟩, "begsr OLD;") (⟨"/a", 10⟩, "endsr;") rfl rfl rfl beginsOld inner ends
  rw [if_neg new] at grown
  rw [if_pos old] at kept
  refine ⟨⟨openNew, ?_⟩, openOld, congrArg Assembler.subroutines kept⟩
  exact congrArg (fun now => now.subroutines.map Declaration.name) grown

end Assembler

end RpgSymbols
