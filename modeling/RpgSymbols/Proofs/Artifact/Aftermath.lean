import RpgSymbols.Proofs.Artifact.AsSource
import RpgSymbols.Proofs.Artifact.Rows
import RpgSymbols.Proofs.Files.Making

/-!
What a run leaves in a tree without links. The directories are made and the artifact stands in the
last one, which is new. So nothing is served but what was served before, and the artifact, which
declares nothing; the documents have the rows they had, and the settings are the ones they were.
-/

namespace RpgSymbols

open Text

/-- The tree of a run: the directories are made, the path of the output leads to one that was not
there before, and the artifact is put into it. -/
structure Produced (tree : FileTree) (output : List String) (made : FileTree) (directory : Place)
    (generated : Generated) : Prop where
  furnished : FileTree.Furnished tree made
  linkless : made.Linkless
  located : made.locate output = .ok directory
  inside : made.isDirectoryAt directory = true
  absent : made.entry? (directory ++ [artifactName]) = none
  vacant : ∀ entry ∈ made.below directory, entry.2 = .directory
  final : generated.tree = made.put (directory ++ [artifactName])
    (.file (SymbolRecord.encode generated.records))

theorem artifact_name_plain : FileTree.PlainName artifactName := by decide

/-- Nothing but directories is in a directory that was not there before. -/
theorem vacant_of_fresh {tree made : FileTree} (grounded : tree.Grounded)
    (furnished : FileTree.Furnished tree made) {directory : Place}
    (fresh : tree.entry? directory = none) {names : Place} {entry : Entry} (named : names ≠ [])
    (held : (directory ++ names, entry) ∈ made.entries) : entry = .directory := by
  obtain ⟨more, extended, directories⟩ := furnished.added
  rw [extended] at held
  rcases List.mem_append.mp held with before | added
  · obtain ⟨first, rest, rfl⟩ := List.exists_cons_of_ne_nil named
    have stands := FileTree.entry_of_listed grounded (by simp) before
    have inside := FileTree.directory_above grounded (Option.isSome_iff_exists.mpr ⟨_, stands⟩)
    rw [FileTree.isDirectoryAt, fresh] at inside
    cases inside
  · exact directories _ added

theorem produced_by_run {tree made : FileTree} {output : List String} {generated : Generated}
    (linkless : tree.Linkless) (free : ∀ name ∈ output, SlashFree name)
    (whole : hasNull output = false) (makes : tree.makeDirectories output.reverse = .ok made)
    (writes : made.write (output ++ [artifactName]) (SymbolRecord.encode generated.records) =
      .ok generated.tree)
    (fresh : ∀ place, generated.tree.locate (output ++ [artifactName]) = .ok place →
      tree.entry? place.dropLast = none) :
    ∃ directory, Produced tree output made directory generated := by
  have madeLinkless := FileTree.make_directories_linkless linkless free whole makes
  obtain ⟨directory, located, inside⟩ := FileTree.make_directories_arrive makes
  have furnished := FileTree.make_directories_furnishes makes
  obtain ⟨final, arrives⟩ :=
    FileTree.locate_written madeLinkless located inside artifact_name_plain writes
  have new := fresh _ arrives
  rw [List.dropLast_concat] at new
  have vacant : ∀ {names entry}, names ≠ [] → (directory ++ names, entry) ∈ made.entries →
      entry = .directory := vacant_of_fresh linkless.toGrounded furnished new
  refine ⟨directory, furnished, madeLinkless, located, inside, ?_, ?_, final⟩
  · cases found : made.entry? (directory ++ [artifactName]) with
    | none => rfl
    | some entry =>
        have listed := FileTree.place_of_entry (by simp) found
        cases vacant (List.cons_ne_nil _ _) listed
        rw [FileTree.write_below madeLinkless located inside artifact_name_plain,
          FileTree.isDirectoryAt, found] at writes
        cases writes
  · rintro ⟨names, entry⟩ listed
    obtain ⟨named, held⟩ := mem_below_iff.mp listed
    exact vacant named held

theorem config_without_file {tree : FileTree} {root : List String}
    (missing : ∀ bytes, tree.find? (root ++ [configFileName]) ≠ some (.file bytes)) :
    loadConfig tree root = .config {} := by
  unfold loadConfig
  dsimp only
  split
  · rename_i bytes found
    exact absurd found (missing bytes)
  · rfl

/-- Settings are those of a file, or the defaults. -/
theorem config_of_file {one other : FileTree} {root : List String}
    (alike : ∀ bytes, one.find? (root ++ [configFileName]) = some (.file bytes) ↔
      other.find? (root ++ [configFileName]) = some (.file bytes)) :
    loadConfig one root = loadConfig other root := by
  by_cases file : ∃ bytes, other.find? (root ++ [configFileName]) = some (.file bytes)
  · obtain ⟨bytes, found⟩ := file
    simp only [loadConfig, found, (alike bytes).mpr found]
  · have missing := not_exists.mp file
    rw [config_without_file missing,
      config_without_file fun bytes => mt (alike bytes).mp (missing bytes)]

namespace Produced

variable {root output : List String} {tree made : FileTree} {directory : Place}
  {generated : Generated} (produced : Produced tree output made directory generated)
include produced

theorem linkless_after : generated.tree.Linkless := by
  rw [produced.final]
  exact produced.linkless.put produced.inside artifact_name_plain (by decide) (by decide)
    produced.absent (by simp)

theorem grown : FileTree.Grown made generated.tree := by
  rw [produced.final, FileTree.put_absent (FileTree.absent_of_entry produced.absent).2]
  exact FileTree.extended_grown rfl

theorem entry_after (place : Place) : generated.tree.entry? place =
    if place = directory ++ [artifactName] then
      some (.file (SymbolRecord.encode generated.records)) else made.entry? place := by
  rw [produced.final]
  exact FileTree.entry_put made (FileTree.absent_of_entry produced.absent).1 _ place

theorem entry_kept {place : Place} {entry : Entry} (found : made.entry? place = some entry) :
    generated.tree.entry? place = some entry := by
  rw [produced.final]
  exact FileTree.entry_filled produced.absent _ found

theorem apart_before (apart : generated.tree.CaseApart) : made.CaseApart := by
  have kept : ∀ {place : Place}, (made.entry? place).isSome = true →
      (generated.tree.entry? place).isSome = true := by
    intro place stands
    obtain ⟨entry, found⟩ := Option.isSome_iff_exists.mp stands
    rw [produced.entry_kept found]
    rfl
  exact fun above name other first second => apart above name other (kept first) (kept second)

section Served

variable (apart : generated.tree.CaseApart) {top : Place} (rooted : made.locate root = .ok top)
include apart rooted

theorem served_still {path text : String}
    (serves : (LocalSource.mk made root).toContentSource.serve (.stream path) = .ok text) :
    (LocalSource.mk generated.tree root).toContentSource.serve (.stream path) = .ok text := by
  have rootedAfter := FileTree.locate_grown produced.grown rooted
  obtain ⟨below, bytes, alike, found, decodes⟩ := (LocalSource.serve_stream_below_iff
    (produced.linkless.below top) ((produced.apart_before apart).below top) rooted).mp serves
  exact (LocalSource.serve_stream_below_iff (produced.linkless_after.below top) (apart.below top)
    rootedAfter).mpr ⟨below, bytes, alike, produced.entry_kept found, decodes⟩

/-- What is served later and was not served before is the artifact. -/
theorem served_anew {path text : String}
    (serves : (LocalSource.mk generated.tree root).toContentSource.serve (.stream path) = .ok text) :
    (LocalSource.mk made root).toContentSource.serve (.stream path) = .ok text ∨
      Silent (lines text) := by
  have rootedAfter := FileTree.locate_grown produced.grown rooted
  obtain ⟨below, bytes, alike, found, decodes⟩ := (LocalSource.serve_stream_below_iff
    (produced.linkless_after.below top) (apart.below top) rootedAfter).mp serves
  rw [produced.entry_after] at found
  split at found
  · cases found
    exact .inr (SymbolRecord.encoded_silent decodes)
  · exact .inl ((LocalSource.serve_stream_below_iff (produced.linkless.below top)
      ((produced.apart_before apart).below top) rooted).mpr ⟨below, bytes, alike, found, decodes⟩)

theorem rows_again (home : String) (document : String × String) :
    rowsAlone (LocalSource.mk generated.tree root).toContentSource home document =
      rowsAlone (LocalSource.mk made root).toContentSource home document := by
  have same := model_of_streams (fun path text => produced.served_still apart rooted)
    (fun path text => produced.served_anew apart rooted) { home := home } document.1 document.2
  rw [rowsAlone, rowsAlone, same]

end Served

/-- The documents of the sources that are found again have the rows they had. -/
theorem documents_again (apart : generated.tree.CaseApart) {home : String} {config : Config}
    {skipped : Option String} {sources again : List (List String × List UInt8)}
    (finds : findSources made root config skipped = .ok sources)
    (sorted : generated.records = SymbolRecord.sort ((freeDocuments sources).flatMap
      (rowsAlone (LocalSource.mk made root).toContentSource home)))
    (found : again = sources ∨ sources = [] ∧
      ∀ source ∈ again, source.2 = SymbolRecord.encode generated.records) :
    (freeDocuments again).flatMap
        (rowsAlone (LocalSource.mk generated.tree root).toContentSource home) =
      (freeDocuments sources).flatMap
        (rowsAlone (LocalSource.mk made root).toContentSource home) ∧
      (freeDocuments again).length = (freeDocuments sources).length := by
  have nothing : freeDocuments [] = [] := rfl
  rcases found with rfl | ⟨rfl, artifact⟩
  · refine ⟨?_, rfl⟩
    by_cases none : again = []
    · rw [none, nothing, List.flatMap_nil, List.flatMap_nil]
    · obtain ⟨top, _, rooted, _⟩ := find_sources_among finds
      have same : rowsAlone (LocalSource.mk generated.tree root).toContentSource home =
          rowsAlone (LocalSource.mk made root).toContentSource home :=
        funext fun document => produced.rows_again apart (rooted none) home document
      rw [same]
  · -- Without rows the artifact is empty, and an empty file is no free-format source.
    have records : generated.records = [] := by
      rw [sorted, nothing, List.flatMap_nil]
      exact List.mergeSort_of_pairwise .nil
    have empty : isFreeFormat (readTextReplacing (SymbolRecord.encode [])) = false := by decide
    have others : freeDocuments again = [] := by
      rw [freeDocuments, List.filterMap_eq_nil_iff]
      intro source listed
      dsimp only
      rw [artifact source listed, records, empty]
      rfl
    rw [others, nothing, List.flatMap_nil, List.flatMap_nil]
    exact ⟨rfl, rfl⟩

/-- No file but the artifact is new. -/
theorem file_after (linkless : tree.Linkless) {place : Place}
    (elsewhere : place ≠ directory ++ [artifactName]) {bytes : List UInt8} :
    generated.tree.entry? place = some (.file bytes) ↔ tree.entry? place = some (.file bytes) := by
  rw [produced.entry_after, if_neg elsewhere]
  obtain ⟨more, extended, directories⟩ := produced.furnished.added
  constructor
  · intro found
    have top : place ≠ [] := by
      rintro rfl
      cases found
    have listed := FileTree.place_of_entry top found
    rw [extended] at listed
    rcases List.mem_append.mp listed with before | added
    · exact FileTree.entry_of_listed linkless.toGrounded top before
    · cases directories _ added
  · exact FileTree.entry_extended extended

/-- The settings stay the same, if the root was there or its path takes no steps that need it to
be. -/
theorem settings_again (linkless : tree.Linkless)
    (there : tree.leadsSomewhere root = true ∨ FileTree.PlainPlace root) :
    loadConfig generated.tree root = loadConfig tree root := by
  have settings : FileTree.PlainPlace [configFileName] := by decide
  have differs : ∀ above : Place, above ++ [configFileName] ≠ directory ++ [artifactName] := by
    intro above same
    exact absurd (List.singleton_inj.mp (List.append_inj' same rfl).2) (by decide)
  obtain ⟨above, before, after⟩ : ∃ above : Place,
      tree.find? (root ++ [configFileName]) = tree.entry? (above ++ [configFileName]) ∧
        generated.tree.find? (root ++ [configFileName]) =
          generated.tree.entry? (above ++ [configFileName]) := by
    rcases there with leads | plain
    · rw [FileTree.leadsSomewhere, FileTree.find?] at leads
      cases rooted : tree.locate root with
      | error reason =>
          rw [rooted] at leads
          split at leads <;> cases leads
      | ok top =>
          have rootedAfter := FileTree.locate_grown produced.grown
            (FileTree.locate_grown produced.furnished.grown rooted)
          exact ⟨top, FileTree.find_below (linkless.below top) rooted settings,
            FileTree.find_below (produced.linkless_after.below top) rootedAfter settings⟩
    · have straight : FileTree.PlainPlace (root ++ [configFileName]) := by
        intro name listed
        exact (List.mem_append.mp listed).elim (plain name) (settings name)
      exact ⟨root, @FileTree.find_below tree [] (linkless.below []) [] rfl _ straight,
        @FileTree.find_below _ [] (produced.linkless_after.below []) [] rfl _ straight⟩
  apply config_of_file
  intro bytes
  rw [before, after]
  exact produced.file_after linkless (differs above)

end Produced

end RpgSymbols
