import RpgSymbols.Proofs.Source.Completeness

/-!
Files without instructions. Where a file begins nothing is open and no documentation is gathered, so
inert lines do nothing there; and only what is gathered passes from one file to the next. A file in
which no line has an instruction leaves no trace behind, just as one without lines.
-/

namespace RpgSymbols

def Silent (lines : List String) : Prop := ∀ line ∈ lines, Inert line

instance (lines : List String) : Decidable (Silent lines) :=
  inferInstanceAs (Decidable (∀ line ∈ lines, Inert line))

theorem silent_nil : Silent [] := by
  intro line listed
  cases listed

def withInstructions (files : List (String × List String)) : List (String × List String) :=
  files.filter fun file => ¬Silent file.2

theorem with_instructions_alike {Item : Type} (path : Item → String)
    {content others : Item → List String} {items : List Item}
    (alike : ∀ item ∈ items,
      content item = others item ∨ Silent (content item) ∧ Silent (others item)) :
    withInstructions (items.map fun item => (path item, content item)) =
      withInstructions (items.map fun item => (path item, others item)) := by
  unfold withInstructions
  induction items with
  | nil => rfl
  | cons item rest induction =>
      obtain ⟨here, later⟩ := List.forall_mem_cons.mp alike
      rw [List.map_cons, List.map_cons]
      rcases here with same | ⟨silent, otherSilent⟩
      · rw [List.filter_cons, List.filter_cons, induction later, same]
      · rw [List.filter_cons_of_neg (by simpa using silent),
          List.filter_cons_of_neg (by simpa using otherSilent), induction later]

namespace Assembler

theorem quiet_begin_file (state : Assembler) : state.beginFile.Quiet := by
  refine ⟨rfl, ?_⟩
  intro draft opened
  cases opened

theorem feed_silent (state : Assembler) (path : String) {lines : List String}
    (silent : Silent lines) : state.feedFile path lines = state.beginFile := by
  rw [feedFile]
  generalize 0 = number
  induction lines generalizing number with
  | nil => rfl
  | cons line rest induction =>
      obtain ⟨inert, later⟩ := List.forall_mem_cons.mp silent
      rw [feed_lines_cons, feed_inert (quiet_begin_file state) ⟨line, inert⟩, induction later]

theorem begin_file_finish (state : Assembler) : state.beginFile.finish = state.finish := rfl

theorem finish_with_instructions (files : List (String × List String))
    {first second : Assembler} (same : first.beginFile = second.beginFile) :
    (first.feedFiles files).finish = (second.feedFiles (withInstructions files)).finish := by
  induction files generalizing first second with
  | nil =>
      have gathered := congrArg finish same
      rwa [begin_file_finish, begin_file_finish] at gathered
  | cons file rest induction =>
      by_cases silent : Silent file.2
      · -- A silent file only begins, and the next file begins as well.
        have dropped : withInstructions (file :: rest) = withInstructions rest :=
          List.filter_cons_of_neg (by simpa using silent)
        have begun : (first.feedFile file.1 file.2).beginFile = second.beginFile := by
          rw [feed_silent first file.1 silent]
          exact same
        rw [dropped]
        exact induction begun
      · have kept : withInstructions (file :: rest) = file :: withInstructions rest :=
          List.filter_cons_of_pos (by simpa using silent)
        have fed : (first.feedFile file.1 file.2).beginFile =
            (second.feedFile file.1 file.2).beginFile := by
          rw [feedFile, feedFile, same]
        rw [kept]
        exact induction fed

end Assembler

theorem assemble_cons (file : String × List String) (rest : List (String × List String)) :
    assemble (file :: rest) = ((Assembler.feedFile {} file.1 file.2).feedFiles rest).finish := rfl

/-- Behind the first file, a model depends on the files with instructions alone. -/
theorem assemble_alike {files others : List (String × List String)}
    (same : withInstructions files = withInstructions others) (file : String × List String) :
    assemble (file :: files) = assemble (file :: others) := by
  rw [assemble_cons, assemble_cons, Assembler.finish_with_instructions files rfl, same,
    ← Assembler.finish_with_instructions others rfl]

end RpgSymbols
