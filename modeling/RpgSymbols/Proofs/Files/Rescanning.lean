import RpgSymbols.Proofs.Files.Making
import RpgSymbols.Settings.OutputDir

/-!
Finding sources once more after a file was written into the output directory. Whether the directory
is below the root or elsewhere, the file is left out or not even listed; only where the directory is
the root itself can the file be a source, and then it is the only one.
-/

namespace RpgSymbols

open Text

/-! Selecting from listings. -/

theorem select_sources_append (selector : SourceSelector) (entries more : List (List String × Entry)) :
    selectSources selector (entries ++ more) = do
      let first ← selectSources selector entries
      let second ← selectSources selector more
      return first ++ second := by
  induction entries with
  | nil =>
      rw [List.nil_append, selectSources]
      cases selectSources selector more <;> rfl
  | cons entry rest induction =>
      obtain ⟨names, held⟩ := entry
      rw [List.cons_append, selectSources, selectSources, induction]
      cases selector.accepts names held with
      | error reason => rfl
      | ok accepted =>
          cases selectSources selector rest with
          | error reason => rfl
          | ok first =>
              cases selectSources selector more with
              | error reason => cases accepted <;> cases held <;> rfl
              | ok second => cases accepted <;> cases held <;> rfl

theorem select_directories (selector : SourceSelector) {entries : List (List String × Entry)}
    (directories : ∀ entry ∈ entries, entry.2 = .directory) :
    selectSources selector entries = .ok [] := by
  induction entries with
  | nil => rfl
  | cons entry rest induction =>
      obtain ⟨names, held⟩ := entry
      obtain ⟨first, later⟩ := List.forall_mem_cons.mp directories
      dsimp only at first
      rw [selectSources, induction later, first]
      rfl

theorem select_file_alone (selector : SourceSelector)
    (unignored : ∀ names, selector.ignored names = .ok false) (names : List String) (bytes : List UInt8) :
    ∃ sources, selectSources selector [(names, .file bytes)] = .ok sources ∧
      ∀ source ∈ sources, source.2 = bytes := by
  obtain ⟨accepted, accepts⟩ : ∃ accepted, selector.accepts names (.file bytes) = .ok accepted := by
    rw [SourceSelector.accepts, unignored]
    split
    · exact ⟨false, rfl⟩
    · exact ⟨_, rfl⟩
  rw [selectSources, accepts, selectSources]
  cases accepted with
  | false => exact ⟨[], rfl, by simp⟩
  | true => exact ⟨[(names, bytes)], rfl, by simp⟩

theorem find_sources_at {tree : FileTree} {root : List String} {config : Config} {skipped : String}
    {place : Place} (located : tree.locate root = .ok place)
    (directory : tree.isDirectoryAt place = true) :
    findSources tree root config (some skipped) = do
      let ignored ← readIgnoreRules (ignoreFilesBelow tree place config.nestedIgnoreFiles)
      match selectSources ⟨config.extensions.map caseFold, skippedNames skipped,
          config.includePatterns, config.excludePatterns, ignored⟩ (tree.below place) with
      | .error error => .error (.ignorePattern error)
      | .ok sources =>
          return sources.mergeSort fun one other => join "/" one.1 ≤ join "/" other.1 := by
  simp only [findSources, findSourcesWith, located, directory, Bool.not_true, Option.getD_some]
  rfl

namespace FileTree

section Filled

variable {tree : FileTree} {directory top : Place} {name : String}
  (absent : tree.entry? (directory ++ [name]) = none) (entry : Entry)
include absent

theorem below_filled_inside {relative : Place} (inside : directory = top ++ relative) :
    (tree.put (directory ++ [name]) entry).below top =
      tree.below top ++ [(relative ++ [name], entry)] := by
  rw [put_absent (absent_of_entry absent).2, below, List.filterMap_append, ← below, inside,
    List.append_assoc]
  simp

theorem below_filled_outside (outside : ¬ top <+: directory) :
    (tree.put (directory ++ [name]) entry).below top = tree.below top := by
  rw [put_absent (absent_of_entry absent).2, below, List.filterMap_append, ← below]
  have unlisted : ¬(top.isPrefixOf (directory ++ [name]) &&
      !((directory ++ [name]).drop top.length).isEmpty) = true := by
    rw [Bool.and_eq_true, List.isPrefixOf_iff_prefix]
    rintro ⟨above, remains⟩
    rcases List.prefix_concat_iff.mp above with whole | before
    · simp [whole] at remains
    · exact outside before
  rw [List.filterMap_cons, if_neg unlisted]
  exact List.append_nil _

end Filled

end FileTree

/-- The path of an output directory relative to the root. -/
theorem relative_of_resolved {tree : FileTree} {output root : List String} {directory top : Place}
    (arrives : tree.resolve output = .ok directory) (rooted : tree.resolve root = .ok top) :
    relativeOutputDir tree output root =
      .ok (if top.isPrefixOf directory then join "/" (directory.drop top.length) else "") := by
  simp only [relativeOutputDir, arrives, rooted, bind, Except.bind]
  split
  · rename_i fails
    split at fails <;> cases fails
  · split <;> rfl

/-- The names of a relative path are read back from its text. -/
theorem skipped_names_of_join {names : Place} (plain : FileTree.PlainPlace names)
    (free : ∀ name ∈ names, SlashFree name) : skippedNames (join "/" names) = names := by
  by_cases top : names = []
  · rw [top]
    decide
  · have kept : pathNames (join "/" names) = names := by
      rw [pathNames, split_join top free, List.filter_eq_self]
      intro name listed
      simp [(plain name listed).named, (plain name listed).moves]
    have relative : startsWith (join "/" names) "/" = false := by
      obtain ⟨first, rest, rfl⟩ := List.exists_cons_of_ne_nil top
      have named := (plain first List.mem_cons_self).named
      obtain ⟨c, letters, spelled⟩ := List.exists_cons_of_ne_nil (mt String.toList_eq_nil_iff.mp named)
      have differs : c ≠ '/' := by
        rintro rfl
        exact free first List.mem_cons_self (spelled ▸ List.mem_cons_self)
      cases rest with
      | nil => simp [startsWith, join, spelled, List.isPrefixOf, differs.symm]
      | cons next rest => simp [startsWith, join, spelled, List.isPrefixOf, differs.symm]
    rw [skippedNames, relative, kept]
    rfl

/-! The sources found again. -/

section Again

variable {made : FileTree} {root : List String} {directory top : Place} {name : String}
  {config : Config} {skipped : String} {bytes : List UInt8}
  (absent : made.entry? (directory ++ [name]) = none)
include absent

theorem ignore_files_filled {relative : Place} (inside : directory = top ++ relative)
    (ordinary : name ≠ ignoreFileName) (nested : Bool) :
    ignoreFilesBelow (made.put (directory ++ [name]) (.file bytes)) top nested =
      ignoreFilesBelow made top nested := by
  have below := FileTree.below_filled_inside absent (.file bytes) inside
  rw [ignoreFilesBelow, below, List.filterMap_append, ignoreFilesBelow]
  simp [ordinary]

theorem root_filled (rooted : made.locate root = .ok top)
    (rootThere : made.isDirectoryAt top = true) :
    (made.put (directory ++ [name]) (.file bytes)).locate root = .ok top ∧
      (made.put (directory ++ [name]) (.file bytes)).isDirectoryAt top = true := by
  rw [FileTree.put_absent (FileTree.absent_of_entry absent).2]
  have grows : FileTree.Grown made ⟨made.entries ++ [(directory ++ [name], .file bytes)]⟩ :=
    FileTree.extended_grown rfl
  exact ⟨FileTree.locate_grown grows rooted, FileTree.directory_grown grows rootThere⟩

section Rooted

variable (rooted : made.locate root = .ok top) (rootThere : made.isDirectoryAt top = true)
include rooted rootThere

theorem find_sources_unlisted (outside : ¬ top <+: directory) :
    findSources (made.put (directory ++ [name]) (.file bytes)) root config (some skipped) =
      findSources made root config (some skipped) := by
  have below := FileTree.below_filled_outside absent (.file bytes) outside
  obtain ⟨located, there⟩ :
      _ ∧ (made.put (directory ++ [name]) (.file bytes)).isDirectoryAt top = true :=
    root_filled absent rooted rootThere
  rw [find_sources_at located there, find_sources_at rooted rootThere]
  simp only [ignoreFilesBelow, below]

theorem find_sources_skipped {relative : Place} (inside : directory = top ++ relative)
    (ordinary : name ≠ ignoreFileName) (deeper : relative ≠ [])
    (skips : skippedNames skipped = relative) :
    findSources (made.put (directory ++ [name]) (.file bytes)) root config (some skipped) =
      findSources made root config (some skipped) := by
  have below := FileTree.below_filled_inside absent (.file bytes) inside
  obtain ⟨located, there⟩ :
      _ ∧ (made.put (directory ++ [name]) (.file bytes)).isDirectoryAt top = true :=
    root_filled absent rooted rootThere
  rw [find_sources_at located there, find_sources_at rooted rootThere]
  have unselected : ∀ ignored, selectSources ⟨config.extensions.map caseFold,
      skippedNames skipped, config.includePatterns, config.excludePatterns, ignored⟩
      (made.below top ++ [(relative ++ [name], .file bytes)]) =
        selectSources ⟨config.extensions.map caseFold, skippedNames skipped,
          config.includePatterns, config.excludePatterns, ignored⟩ (made.below top) := by
    intro ignored
    have left : selectSources ⟨config.extensions.map caseFold, skippedNames skipped,
        config.includePatterns, config.excludePatterns, ignored⟩
        [(relative ++ [name], .file bytes)] = .ok [] := by
      simp [selectSources, SourceSelector.accepts, SourceSelector.isSkipped, skips, deeper]
      rfl
    rw [select_sources_append, left]
    cases selectSources _ (made.below top) <;> simp [bind, Except.bind, pure, Except.pure]
  simp only [ignore_files_filled absent inside ordinary, below, unselected]

end Rooted

variable (config skipped bytes) in
/-- If the root itself is the directory and there were only directories in it, nothing but the file
is found, if anything. -/
theorem find_sources_alone (rooted : made.locate root = .ok directory)
    (rootThere : made.isDirectoryAt directory = true) (ordinary : name ≠ ignoreFileName)
    (vacant : ∀ entry ∈ made.below directory, entry.2 = .directory) :
    findSources made root config (some skipped) = .ok [] ∧ ∃ again,
      findSources (made.put (directory ++ [name]) (.file bytes)) root config (some skipped) =
        .ok again ∧ ∀ source ∈ again, source.2 = bytes := by
  have same : directory = directory ++ [] := (List.append_nil directory).symm
  have below := FileTree.below_filled_inside absent (.file bytes) same
  obtain ⟨located, there⟩ :
      _ ∧ (made.put (directory ++ [name]) (.file bytes)).isDirectoryAt directory = true :=
    root_filled absent rooted rootThere
  rw [find_sources_at located there, find_sources_at rooted rootThere]
  have unignored : ignoreFilesBelow made directory config.nestedIgnoreFiles = [] :=
    no_ignore_files fun entry listed => .inl (vacant entry listed)
  simp only [ignore_files_filled absent same ordinary, unignored, below, read_no_ignore_files,
    select_sources_append, select_directories _ vacant, bind, Except.bind]
  constructor
  · exact congrArg Except.ok (List.mergeSort_of_pairwise .nil)
  · obtain ⟨sources, selects, held⟩ := select_file_alone ⟨config.extensions.map caseFold,
      skippedNames skipped, config.includePatterns, config.excludePatterns, fun _ => .ok false⟩
      (fun _ => rfl) ([] ++ [name]) bytes
    rw [selects]
    refine ⟨_, rfl, ?_⟩
    intro source listed
    exact held source (List.mem_mergeSort.mp listed)

/-- The same sources are found again, or there were none and now only the file is found. -/
theorem find_sources_again {output : List String} (linkless : made.Linkless)
    (located : made.locate output = .ok directory)
    (inside : made.isDirectoryAt directory = true) (ordinary : name ≠ ignoreFileName)
    (vacant : ∀ entry ∈ made.below directory, entry.2 = .directory)
    (skips : relativeOutputDir made output root = .ok skipped)
    {sources : List (List String × List UInt8)}
    (finds : findSources made root config (some skipped) = .ok sources) :
    ∃ again, findSources (made.put (directory ++ [name]) (.file bytes)) root config (some skipped) =
        .ok again ∧ (again = sources ∨ sources = [] ∧ ∀ source ∈ again, source.2 = bytes) := by
  rcases rooted_or_missing made root with ⟨top, rooted, rootThere⟩ | missing
  · by_cases below : top <+: directory
    · obtain ⟨relative, rfl⟩ := below
      by_cases same : relative = []
      · subst same
        rw [List.append_nil] at absent located inside vacant ⊢
        obtain ⟨none, again, findsAgain, held⟩ :=
          find_sources_alone config skipped bytes absent rooted rootThere ordinary vacant
        cases none.symm.trans finds
        exact ⟨again, findsAgain, .inr ⟨rfl, held⟩⟩
      · have above : top.isPrefixOf (top ++ relative) = true :=
          List.isPrefixOf_iff_prefix.mpr (List.prefix_append top relative)
        have text : skipped = join "/" relative := by
          have arrives := FileTree.resolve_of_locate [] located
            (FileTree.whole_of_located linkless.whole located)
          have top := FileTree.resolve_of_locate [] rooted
            (FileTree.whole_of_located linkless.whole rooted)
          rw [relative_of_resolved arrives top, if_pos above, List.drop_left] at skips
          exact (Except.ok.inj skips).symm
        have stands : (made.entry? (top ++ relative)).isSome = true := by
          rw [FileTree.isDirectoryAt, beq_iff_eq] at inside
          rw [inside]
          rfl
        have names : skippedNames skipped = relative := by
          rw [text]
          exact skipped_names_of_join (FileTree.plain_of_entry linkless.toGrounded stands)
            fun name listed =>
              (FileTree.path_names_of_entry linkless.toGrounded stands name listed).2
        exact ⟨sources, (find_sources_skipped absent rooted rootThere rfl ordinary same names).trans
          finds, .inl rfl⟩
    · exact ⟨sources, (find_sources_unlisted absent rooted rootThere below).trans finds, .inl rfl⟩
  · have missingStill : ∀ place,
        (made.put (directory ++ [name]) (.file bytes)).locate root = .ok place →
        (made.put (directory ++ [name]) (.file bytes)).isDirectoryAt place = false := by
      intro place locates
      rw [FileTree.directory_unfilled absent]
      by_cases new : place = directory ++ [name]
      · rw [new, FileTree.isDirectoryAt, absent]
        rfl
      · exact missing place (FileTree.locate_unfilled absent locates new)
    cases (find_sources_nowhere missing).symm.trans finds
    exact ⟨[], find_sources_nowhere missingStill, .inl rfl⟩

end Again

end RpgSymbols
