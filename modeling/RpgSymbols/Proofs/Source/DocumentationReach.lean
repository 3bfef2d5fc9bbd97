import RpgSymbols.Proofs.Source.DocumentationParts
import RpgSymbols.Proofs.Source.Origin
import RpgSymbols.Proofs.Source.Scope

/-!
Which documentation a declaration gets. Comments of an open block are gathered; lines that declare
something whole, or complete what is open, take what was gathered, and a marker that opens a block
starts afresh. A declaration is documented exactly when some comment before it was gathered and no
line in between cleared it away, whichever declarations stand in between.
-/

namespace RpgSymbols

open Text

def Declaration.Documented (declaration : Declaration) : Prop :=
  declaration.title ≠ none ∨ declaration.description ≠ "" ∨ declaration.tags ≠ []

namespace DocumentationTracker

def Blank (tracker : DocumentationTracker) : Prop :=
  tracker.title = none ∧ tracker.description = [] ∧ tracker.tags = []

def Titled (tracker : DocumentationTracker) : Prop :=
  tracker.description ≠ [] → tracker.title ≠ none

theorem blank_reset (tracker : DocumentationTracker) : tracker.reset.Blank := ⟨rfl, rfl, rfl⟩

theorem titled_reset (tracker : DocumentationTracker) : tracker.reset.Titled :=
  fun described => absurd rfl described

theorem titled_toggle (tracker : DocumentationTracker) (titled : tracker.Titled) :
    tracker.toggle.Titled := by
  unfold toggle
  split
  · exact titled
  · exact fun described => absurd rfl described

/-- A comment without text is passed over. Any other one is a tag, continues the last tag, is the
title or goes into the description. -/
theorem feed_cases (tracker : DocumentationTracker) (comment : String) :
    (trim comment = "" ∧ tracker.feed comment = tracker) ∨
    (trim comment ≠ "" ∧
      ((∃ tag, tracker.feed comment = { tracker with tags := tracker.tags ++ [tag] }) ∨
       (tracker.tags ≠ [] ∧ tracker.feed comment =
          { tracker with tags := continueLast (trim comment) tracker.tags }) ∨
       tracker.feed comment = { tracker with title := some (trim comment) } ∨
       (tracker.title ≠ none ∧ tracker.feed comment =
          { tracker with description := tracker.description ++ [trim comment] }))) := by
  by_cases empty : trim comment = ""
  · exact .inl ⟨empty, feed_of_empty tracker comment empty⟩
  refine .inr ⟨empty, ?_⟩
  by_cases opens : opensTag (trim comment) = true
  · exact .inl ⟨_, feed_tag tracker opens⟩
  rw [feed_plain tracker empty (Bool.eq_false_iff.mpr opens)]
  by_cases tagged : tracker.tags = []
  · by_cases titled : tracker.title = none
    · exact .inr (.inr (.inl (by simp [tagged, titled])))
    · exact .inr (.inr (.inr ⟨titled, by simp [tagged, titled]⟩))
  · exact .inr (.inl ⟨tagged, by simp [tagged]⟩)

theorem continue_last_ne_nil (comment : String) (tags : List Tag) (some : tags ≠ []) :
    continueLast comment tags ≠ [] := by
  match tags with
  | [] => exact absurd rfl some
  | [tag] => simp [continueLast]
  | tag :: next :: rest => simp [continueLast]

theorem not_blank_feed (tracker : DocumentationTracker) (comment : String)
    (text : trim comment ≠ "") : ¬ (tracker.feed comment).Blank := by
  rintro ⟨untitled, undescribed, untagged⟩
  rcases feed_cases tracker comment with
    ⟨empty, _⟩ | ⟨_, ⟨tag, fed⟩ | ⟨tagged, fed⟩ | fed | ⟨titled, fed⟩⟩
  · exact text empty
  · simp [fed] at untagged
  · rw [fed] at untagged
    exact continue_last_ne_nil _ _ tagged untagged
  · simp [fed] at untitled
  · simp [fed] at undescribed

theorem titled_feed (tracker : DocumentationTracker) (comment : String)
    (titled : tracker.Titled) : (tracker.feed comment).Titled := by
  rcases feed_cases tracker comment with
    ⟨_, fed⟩ | ⟨_, ⟨tag, fed⟩ | ⟨_, fed⟩ | fed | ⟨named, fed⟩⟩
  · rwa [fed]
  · rw [fed]
    exact titled
  · rw [fed]
    exact titled
  · rw [fed]
    exact fun _ => Option.some_ne_none _
  · rw [fed]
    exact fun _ => named

theorem snapshot_iff (tracker : DocumentationTracker) (titled : tracker.Titled)
    (declaration : Declaration) (docs : declaration.origin.docs = tracker.snapshot) :
    declaration.Documented ↔ ¬ tracker.Blank := by
  obtain ⟨title, description, tags⟩ := Documentation.mk.inj docs
  unfold Declaration.Documented Blank
  rw [title, description, tags]
  constructor
  · rintro documented ⟨untitled, undescribed, untagged⟩
    simp [untitled, undescribed, untagged, join] at documented
  · intro gathered
    by_cases untitled : tracker.title = none
    · have undescribed : tracker.description = [] :=
        Classical.byContradiction fun described => titled described untitled
      exact .inr (.inr fun untagged => gathered ⟨untitled, undescribed, untagged⟩)
    · exact .inl untitled

end DocumentationTracker

namespace Assembler

/-- The line is a comment with text, and a documentation block is open. -/
def Gathers (state : Assembler) (raw : String) : Prop :=
  ∃ text, Inert raw ∧ comment? raw = some text ∧ trim text ≠ "" ∧ state.docs.active = true

/-- Nothing is open, and the line holds a whole declaration: a constant, a variable, a structure that
is a template or ends on its line, or such a prototype of a procedure that is not known. -/
def DeclaresWhole (state : Assembler) (raw : String) : Prop :=
  state.current = none ∧ ∃ operation name display,
    instruction? raw = some (operation, name :: display) ∧
    (operation = .constant ∨ operation = .standalone ∨
      (operation = .openStructure ∧ (templateKeyword ∈ display.map upper ∨
        endsOnItsLine "DCL-DS" (display.map upper) = true)) ∨
      (operation = .openPrototype ∧ state.procedures.contains (upper name) = false ∧
        endsOnItsLine "DCL-PR" (display.map upper) = true))

def Completes (state : Assembler) (raw : String) : Prop :=
  state.EndsStructure raw ∨ state.EndsProcedure raw ∨ state.EndsSubroutine raw

/-- The line is a marker, and no documentation block is open. -/
def OpensBlock (state : Assembler) (raw : String) : Prop :=
  state.docs.active = false ∧ ∃ others, instruction? raw = some (.docMarker, others)

/-- The line takes what was gathered, or starts afresh. -/
def Clears (state : Assembler) (raw : String) : Prop :=
  state.DeclaresWhole raw ∨ state.Completes raw ∨ state.OpensBlock raw

theorem blank_of_declares_whole {state : Assembler} {raw : String}
    (whole : state.DeclaresWhole raw) (position : Position) :
    (state.feedLine position raw).docs.Blank := by
  obtain ⟨vacant, operation, name, display, reads, kind⟩ := whole
  rcases kind with rfl | rfl | ⟨rfl, whole⟩ | ⟨rfl, new, ends⟩
  · rw [feed_constant reads vacant]
    exact DocumentationTracker.blank_reset _
  · by_cases template : templateKeyword ∈ display.map upper
    · rw [feed_standalone_pattern reads vacant template]
      exact DocumentationTracker.blank_reset _
    · rw [feed_standalone reads vacant template]
      exact DocumentationTracker.blank_reset _
  · by_cases template : templateKeyword ∈ display.map upper
    · rw [feed_structure_pattern reads vacant template]
      exact DocumentationTracker.blank_reset _
    · rw [feed_structure_line reads vacant template (whole.resolve_left template), docs_finalize]
      exact DocumentationTracker.blank_reset _
  · rw [feed_prototype_line reads vacant new ends, docs_finalize]
    exact DocumentationTracker.blank_reset _

theorem blank_of_completes {state : Assembler} {raw : String} (completes : state.Completes raw)
    (position : Position) : (state.feedLine position raw).docs.Blank := by
  have blank := DocumentationTracker.blank_reset state.docs
  rw [← docs_finalize] at blank
  rcases completes with ⟨heading, others, opened, reads⟩ |
    ⟨draft, operation, others, opened, reads, closes⟩ | ⟨heading, others, opened, reads⟩
  · rw [feed_end_structure reads opened]
    exact blank
  · rw [feed_end_procedure reads closes opened]
    exact blank
  · rw [feed_end_subroutine reads opened]
    exact blank

theorem blank_of_clears {state : Assembler} {raw : String} (clears : state.Clears raw)
    (position : Position) : (state.feedLine position raw).docs.Blank := by
  rcases clears with whole | completes | ⟨inactive, others, reads⟩
  · exact blank_of_declares_whole whole position
  · exact blank_of_completes completes position
  · rw [feed_line_of_instruction reads]
    simp only [perform, DocumentationTracker.toggle, inactive]
    exact ⟨rfl, rfl, rfl⟩

theorem not_blank_of_gathers {state : Assembler} {raw : String} (gathers : state.Gathers raw)
    (position : Position) : ¬ (state.feedLine position raw).docs.Blank := by
  obtain ⟨text, inert, worded, full, active⟩ := gathers
  rw [feed_line_of_comment inert worded, if_pos active]
  dsimp only
  exact DocumentationTracker.not_blank_feed state.docs text full

/-- A line of neither sort leaves what was gathered, or that nothing was. -/
theorem blank_effect {state next : Assembler} {position : Position} {raw : String}
    (effect : Effect state position raw next) (keeps : ¬ state.Clears raw)
    (adds : ¬ state.Gathers raw) : next.docs.Blank ↔ state.docs.Blank := by
  cases effect with
  | marker reads =>
      cases active : state.docs.active with
      | true => simp [DocumentationTracker.toggle, active, DocumentationTracker.Blank]
      | false => exact absurd (.inr (.inr ⟨active, _, reads⟩)) keeps
  | @comment text inert worded active =>
      by_cases empty : trim text = ""
      · rw [DocumentationTracker.feed_of_empty _ _ empty]
      · exact absurd ⟨text, inert, worded, empty, active⟩ adds
  | constant reads vacant =>
      exact absurd (.inl ⟨vacant, _, _, _, reads, .inl rfl⟩) keeps
  | standalone reads vacant plain =>
      exact absurd (.inl ⟨vacant, _, _, _, reads, .inr (.inl rfl)⟩) keeps
  | pattern reads declares vacant template =>
      refine absurd (.inl ⟨vacant, _, _, _, reads, ?_⟩) keeps
      rcases declares with rfl | rfl
      · exact .inr (.inl rfl)
      · exact .inr (.inr (.inl ⟨rfl, .inl template⟩))
  | structureLine reads vacant plain ends =>
      exact absurd (.inl ⟨vacant, _, _, _, reads, .inr (.inr (.inl ⟨rfl, .inr ends⟩))⟩) keeps
  | prototypeLine reads vacant new ends =>
      exact absurd (.inl ⟨vacant, _, _, _, reads, .inr (.inr (.inr ⟨rfl, new, ends⟩))⟩) keeps
  | structureEnded reads opened =>
      exact absurd (.inr (.inl (.inl ⟨_, _, opened, reads⟩))) keeps
  | procedureEnded reads closes opened =>
      exact absurd (.inr (.inl (.inr (.inl ⟨_, _, _, opened, reads, closes⟩)))) keeps
  | subroutineEnded reads opened =>
      exact absurd (.inr (.inl (.inr (.inr ⟨_, _, opened, reads⟩)))) keeps
  | _ => exact Iff.rfl

/-- Every comment gathered before line `number` was cleared away by a line behind it. -/
def Cleared (earlier : List (String × List String)) (path : String) (lines : List String)
    (number : Nat) : Prop :=
  ∀ comment raw, comment < number → lines[comment]? = some raw →
    (atLine earlier path lines comment).Gathers raw →
    ∃ taker line, comment < taker ∧ taker < number ∧ lines[taker]? = some line ∧
      (atLine earlier path lines taker).Clears line

theorem not_clears_of_gathers {state other : Assembler} {raw : String}
    (gathers : state.Gathers raw) : ¬ other.Clears raw := by
  obtain ⟨text, inert, _⟩ := gathers
  have silent : ∀ read, instruction? raw ≠ some read := by
    intro read reads
    rw [Inert, reads] at inert
    cases inert
  rintro (⟨_, _, _, _, reads, _⟩ |
    (⟨_, _, _, reads⟩ | ⟨_, _, _, _, reads, _⟩ | ⟨_, _, _, reads⟩) | ⟨_, _, reads⟩)
  all_goals exact silent _ reads

theorem cleared_succ {lines : List String} {number : Nat} {raw : String}
    (written : lines[number]? = some raw) (earlier : List (String × List String))
    (path : String) :
    Cleared earlier path lines (number + 1) ↔
      (atLine earlier path lines number).Clears raw ∨
        (¬ (atLine earlier path lines number).Gathers raw ∧ Cleared earlier path lines number) := by
  constructor
  · intro cleared
    by_cases clears : (atLine earlier path lines number).Clears raw
    · exact .inl clears
    · refine .inr ⟨?_, ?_⟩
      · intro gathers
        obtain ⟨taker, _, behind, ahead, _⟩ :=
          cleared number raw (Nat.lt_succ_self number) written gathers
        omega
      · intro comment text before spelled gathers
        obtain ⟨taker, line, behind, ahead, placed, takes⟩ :=
          cleared comment text (Nat.lt_succ_of_lt before) spelled gathers
        refine ⟨taker, line, behind, ?_, placed, takes⟩
        apply Nat.lt_of_le_of_ne (Nat.le_of_lt_succ ahead)
        rintro rfl
        rw [written] at placed
        cases placed
        exact clears takes
  · rintro (clears | ⟨passes, cleared⟩) comment text before spelled gathers
    · by_cases same : comment = number
      -- A comment with text is no instruction, so it cannot clear anything away itself.
      · subst same
        rw [written] at spelled
        cases spelled
        exact absurd clears (not_clears_of_gathers gathers)
      · exact ⟨number, raw, by omega, Nat.lt_succ_self number, written, clears⟩
    · by_cases same : comment = number
      · subst same
        rw [written] at spelled
        cases spelled
        exact absurd gathers passes
      · obtain ⟨taker, line, behind, ahead, takes⟩ :=
          cleared comment text (by omega) spelled gathers
        exact ⟨taker, line, behind, Nat.lt_succ_of_lt ahead, takes⟩

theorem blank_iff_cleared (earlier : List (String × List String)) (path : String)
    (lines : List String) (number : Nat) (bound : number ≤ lines.length) :
    (atLine earlier path lines number).docs.Blank ↔ Cleared earlier path lines number := by
  induction number with
  | zero =>
      rw [at_line_zero]
      exact ⟨fun _ _ _ before => absurd before (Nat.not_lt_zero _), fun _ => ⟨rfl, rfl, rfl⟩⟩
  | succ number induction =>
      have written : lines[number]? = some lines[number] := List.getElem?_eq_getElem bound
      rw [at_line_succ written, cleared_succ written, ← induction (Nat.le_of_succ_le bound)]
      by_cases clears : (atLine earlier path lines number).Clears lines[number]
      · exact iff_of_true (blank_of_clears clears _) (.inl clears)
      · by_cases gathers : (atLine earlier path lines number).Gathers lines[number]
        · refine iff_of_false (not_blank_of_gathers gathers _) ?_
          rintro (takes | ⟨passes, _⟩)
          · exact clears takes
          · exact passes gathers
        · rw [blank_effect (feed_line_effect _ _ _) clears gathers]
          simp only [clears, gathers, not_false_iff, true_and, false_or]

theorem titled_effect {state next : Assembler} {position : Position} {raw : String}
    (effect : Effect state position raw next) (titled : state.docs.Titled) :
    next.docs.Titled := by
  have reset := DocumentationTracker.titled_reset state.docs
  cases effect with
  | marker reads => exact DocumentationTracker.titled_toggle _ titled
  | @comment text inert worded active =>
      dsimp only
      exact DocumentationTracker.titled_feed state.docs text titled
  | constant reads vacant => exact reset
  | standalone reads vacant plain => exact reset
  | pattern reads declares vacant template => exact reset
  | structureLine reads vacant plain ends =>
      rw [docs_finalize]
      exact reset
  | prototypeLine reads vacant new ends =>
      rw [docs_finalize]
      exact reset
  | structureEnded reads opened =>
      rw [docs_finalize]
      exact reset
  | procedureEnded reads closes opened =>
      rw [docs_finalize]
      exact reset
  | subroutineEnded reads opened =>
      simp only [docs_finalize]
      exact reset
  | _ => exact titled

theorem titled_at_line (earlier : List (String × List String)) (path : String)
    (lines : List String) (number : Nat) :
    (atLine earlier path lines number).docs.Titled := by
  apply at_line_keeps (fun state position raw => titled_effect (feed_line_effect state position raw))
  · exact fun state _ described => absurd rfl described
  · exact fun described => absurd rfl described

end Assembler

def NamesDeclaration (raw : String) : Prop :=
  ∃ operation name display, instruction? raw = some (operation, name :: display) ∧
    operation.kind? ≠ none

/-- A declaration is named before line `number`, and no marker stands between the two. -/
def NamedSinceMarker (lines : List String) (number : Nat) : Prop :=
  ∃ opener raw, opener < number ∧ lines[opener]? = some raw ∧ NamesDeclaration raw ∧
    ∀ place line others, opener < place → place < number → lines[place]? = some line →
      instruction? line ≠ some (.docMarker, others)

/-- A declaration is documented exactly when something gathered before it was not cleared away. -/
theorem documented_iff (earlier later : List (String × List String)) (path : String)
    (lines : List String)
    (distinct : ((earlier ++ (path, lines) :: later).map Prod.fst).Nodup)
    (declaration : Declaration)
    (member : declaration ∈ (assemble (earlier ++ (path, lines) :: later)).declarations)
    (number : Nat) (placed : declaration.position = some ⟨path, number⟩) :
    declaration.Documented ↔ ¬ Assembler.Cleared earlier path lines number := by
  obtain ⟨raw, operation, others, written, reads, opening⟩ :=
    opened_at_position earlier later path lines distinct declaration member number placed
  have bound : number < lines.length := (List.getElem?_eq_some_iff.mp written).1
  rw [← Assembler.blank_iff_cleared earlier path lines number (Nat.le_of_lt bound)]
  exact DocumentationTracker.snapshot_iff _
    (Assembler.titled_at_line earlier path lines number) declaration opening.docs

/-- Documentation belongs to the next named declaration alone, exactly where everything gathered
before was cleared away by the time another declaration comes. A line that is passed over, and one
that only opens a declaration, clears nothing away. -/
theorem documentation_reach_iff (earlier later : List (String × List String)) (path : String)
    (lines : List String)
    (distinct : ((earlier ++ (path, lines) :: later).map Prod.fst).Nodup)
    (declaration : Declaration)
    (member : declaration ∈ (assemble (earlier ++ (path, lines) :: later)).declarations)
    (number : Nat) (placed : declaration.position = some ⟨path, number⟩) :
    (declaration.Documented → ¬ NamedSinceMarker lines number) ↔
      (NamedSinceMarker lines number → Assembler.Cleared earlier path lines number) := by
  have documented := documented_iff earlier later path lines distinct declaration member number placed
  rw [documented]
  constructor
  · intro follows named
    exact Classical.byContradiction fun standing => follows standing named
  · intro cleared standing named
    exact standing (cleared named)

def knownPrototype : List String :=
  ["dcl-pr A end-pr;", "///", "// Doc", "///", "dcl-pr A end-pr;", "dcl-c X 1;"]

theorem known_prototype_named : NamedSinceMarker knownPrototype 5 := by
  have reads : instruction? "dcl-pr A end-pr;" = some (.openPrototype, ["A", "end-pr"]) := by
    decide +kernel
  refine ⟨4, _, Nat.lt_succ_self 4, rfl, ⟨_, _, _, reads, by decide⟩, ?_⟩
  intro place line others behind ahead
  omega

theorem known_prototype_documents : ∃ declaration,
    declaration ∈ (assemble [("/a", knownPrototype)]).declarations ∧
      declaration.position = some ⟨"/a", 5⟩ ∧ declaration.Documented := by
  have titled : (some ⟨"/a", 5⟩, some "Doc") ∈
      (assemble [("/a", knownPrototype)]).declarations.map fun declaration =>
        (declaration.position, declaration.title) := by
    decide +kernel
  obtain ⟨declaration, member, same⟩ := List.mem_map.mp titled
  obtain ⟨placed, title⟩ := Prod.mk.inj same
  exact ⟨declaration, member, placed, .inl (by simp [title])⟩

theorem known_prototype_clears_nothing :
    NamedSinceMarker knownPrototype 5 ∧ ¬ Assembler.Cleared [] "/a" knownPrototype 5 := by
  obtain ⟨declaration, member, placed, documented⟩ := known_prototype_documents
  refine ⟨known_prototype_named, ?_⟩
  intro cleared
  exact (documentation_reach_iff [] [] "/a" knownPrototype (by simp) declaration member 5
    placed).mpr (fun _ => cleared) documented known_prototype_named

/-- The constant gets the documentation of the prototype. -/
theorem known_prototype_hands_on :
    ¬ ∀ earlier later path lines declaration, ∀ number : Nat,
      ((earlier ++ (path, lines) :: later).map Prod.fst).Nodup →
      declaration ∈ (assemble (earlier ++ (path, lines) :: later)).declarations →
      declaration.position = some ⟨path, number⟩ →
      declaration.Documented → ¬ NamedSinceMarker lines number := by
  intro follows
  obtain ⟨declaration, member, placed, documented⟩ := known_prototype_documents
  exact follows [] [] "/a" knownPrototype declaration 5 (by simp) member placed documented
    known_prototype_named

end RpgSymbols
