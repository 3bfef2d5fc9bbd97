import RpgSymbols.Proofs.Include.Discovery
import RpgSymbols.Proofs.Source.Collections

/-!
Includes never hide what the document itself declares. The document is read first, and what it
declares keeps its place in every collection. Only a procedure may give way, and only to the
definition of its name in an included file.
-/

namespace RpgSymbols

open Text

/-- The declarations of one model stand in front in another, which `files` were added to. A procedure
may be replaced by a definition of the same name in these files. -/
structure Model.KeptIn (own whole : Model) (files : List (String × List String)) : Prop where
  constants : own.constants <+: whole.constants
  standalones : own.standalones <+: whole.standalones
  structures : own.structures <+: whole.structures
  subroutines : own.subroutines <+: whole.subroutines
  names : own.procedures.map Declaration.key <+: whole.procedures.map Declaration.key
  procedures : ∀ (place : Nat) (old new : Declaration), own.procedures[place]? = some old →
    whole.procedures[place]? = some new → new ≠ old →
    new.key = old.key ∧ new.WrittenAmong .procedure .openProcedure files

namespace Assembler

theorem Retained.names {before later : Assembler} (retained : Retained before later) :
    before.finish.procedures.map Declaration.key <+: later.finish.procedures.map Declaration.key := by
  have left := before.procedures.keys_to_list
  have right := later.procedures.keys_to_list
  rw [finish, finish, left, right, ProcedureIndex.keys, ProcedureIndex.keys,
    List.prefix_iff_getElem?]
  intro place bound
  rw [List.length_map] at bound
  obtain ⟨new, here, named, _⟩ :=
    retained.procedures place _ (List.getElem?_eq_getElem bound)
  rw [List.getElem?_map, here, List.getElem_map, Option.map_some, named]

/-- A place of the index that changes holds a definition of the files that were read. -/
theorem kept_in {base : Assembler} (consistent : Consistent base)
    (files : List (String × List String)) :
    base.finish.KeptIn (base.feedFiles files).finish files := by
  have retained := retained_feed_files consistent files
  have gathered := gathered_since base files
  refine ⟨retained.constants, retained.standalones, retained.structures, retained.subroutines,
    retained.names, ?_⟩
  intro place old new before after differs
  obtain ⟨first, there, rfl⟩ := ProcedureIndex.entry_of_to_list before
  obtain ⟨second, here, rfl⟩ := ProcedureIndex.entry_of_to_list after
  obtain ⟨entry, again, named, changed⟩ := retained.procedures place first there
  cases again.symm.trans here
  have other : second ≠ first := fun same => differs (congrArg IndexedProcedure.declaration same)
  have defines : second.form = .definition := changed.resolve_left other
  have written : second.declaration.WrittenAmong .procedure second.form.operation files := by
    apply (gathered.procedures place second here).resolve_left
    intro kept
    exact other (Option.some.inj (kept.symm.trans there))
  rw [defines] at written
  exact ⟨named, written⟩

end Assembler

/-- The model of a document alone is kept in the model with its includes, and where a procedure of
the document is replaced, an included file defines it. Whatever was fed before, a line changes the
collections by one element at most: one more at an end, or a definition in place of a procedure of
the same name. -/
theorem own_declarations_kept (source : ContentSource) (cache : ContentCache)
    (document : Document) (text : String) :
    (assemble [(document.path, lines text)]).KeptIn
      (buildModel source cache document text).model
      (includedFiles source cache document (lines text)) ∧
    ∀ feedings position raw,
      Collections.Step (Assembler.feedAll feedings).collections
        ((Assembler.feedAll feedings).feedLine position raw).collections := by
  constructor
  · rw [build_model_included]
    generalize includedFiles source cache document (lines text) = files
    generalize lines text = own
    have consistent := Assembler.consistent_feed_all [.file document.path own]
    exact Assembler.kept_in consistent files
  · intro feedings position raw
    have consistent := Assembler.consistent_feed_all feedings
    exact Assembler.step_effect (Assembler.feed_line_effect _ _ _) consistent.distinct

/-- An included file defines what the document has a prototype of. -/
theorem prototype_gives_way :
    let text := "/copy b\ndcl-pr P end-pr;"
    let document : Document := ⟨"streamfile", "/A"⟩
    let source := ContentSource.ofStreams [("/B", "dcl-proc p;\nend-proc;")]
    ∃ old new, (assemble [("/A", lines text)]).procedures[0]? = some old ∧
      (buildModel source {} document text).model.procedures[0]? = some new ∧ new ≠ old ∧
      new.key = old.key ∧
      new.WrittenAmong .procedure .openProcedure (includedFiles source {} document (lines text)) := by
  intro text document source
  have alone : ((assemble [("/A", lines text)]).procedures[0]?.map Declaration.position) =
      some (some ⟨"/A", 1⟩) := by decide +kernel
  have joined : ((buildModel source {} document text).model.procedures[0]?.map
      Declaration.position) = some (some ⟨"/B", 0⟩) := by decide +kernel
  obtain ⟨old, before, oldPlace⟩ := Option.map_eq_some_iff.mp alone
  obtain ⟨new, after, newPlace⟩ := Option.map_eq_some_iff.mp joined
  have differs : new ≠ old := by
    rintro rfl
    rw [oldPlace] at newPlace
    exact absurd newPlace (by decide)
  have kept := (own_declarations_kept source {} document text).1
  exact ⟨old, new, before, after, differs, kept.procedures 0 old new before after differs⟩

end RpgSymbols
