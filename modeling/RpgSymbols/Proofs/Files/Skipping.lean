import RpgSymbols.Proofs.Files.Rescanning
import RpgSymbols.Proofs.Files.SourceListing
import RpgSymbols.Proofs.Files.Unrolling

/-!
Leaving a directory out of the sources. What is found with a directory to skip is what is found without
one, less the files below it; and directories that were made are no sources, so it does not matter when
they are. Once an output directory below the root is made, what is skipped is the place it is resolved to.
-/

namespace RpgSymbols

open Text Pattern

/-! Selecting with a directory to skip. -/

section Selecting

variable {selector : SourceSelector} {entries : List (List String × Entry)}
  {chosen : List (List String × List UInt8)}

theorem select_unskipped (selects : selectSources selector entries = .ok chosen) :
    ∀ source ∈ chosen, selector.isSkipped source.1 = false := by
  induction entries generalizing chosen with
  | nil =>
      cases selects
      simp
  | cons first rest induction =>
      obtain ⟨names, entry⟩ := first
      simp only [selectSources, bind_ok_iff] at selects
      obtain ⟨accepted, accepts, others, selectsRest, answers⟩ := selects
      have later := induction selectsRest
      split at answers
      · cases answers
        refine List.forall_mem_cons.mpr ⟨?_, later⟩
        rw [SourceSelector.accepts] at accepts
        split at accepts
        · cases accepts
        · rename_i unskipped
          simp only [Bool.or_eq_true, not_or, Bool.not_eq_true] at unskipped
          exact unskipped.2
      · cases answers
        exact later

section Skipping

variable {skipped : List String} (plain : selector.skipped = []) (some : skipped ≠ [])
include plain some

theorem accepts_skipping (names : List String) (entry : Entry) :
    SourceSelector.accepts { selector with skipped := skipped } names entry =
      if skipped.isPrefixOf names then .ok false else selector.accepts names entry := by
  have unskipped : selector.isSkipped names = false := by simp [SourceSelector.isSkipped, plain]
  have skips : SourceSelector.isSkipped { selector with skipped := skipped } names =
      skipped.isPrefixOf names := by simp [SourceSelector.isSkipped, some]
  cases entry with
  | file bytes =>
      rw [SourceSelector.accepts, SourceSelector.accepts, skips, unskipped]
      cases skipped.isPrefixOf names with
      | true => simp
      | false => rfl
  | directory => exact (ite_self _).symm
  | link target => exact (ite_self _).symm

theorem select_skipping (selects : selectSources selector entries = .ok chosen) :
    selectSources { selector with skipped := skipped } entries =
      .ok (chosen.filter fun source => !skipped.isPrefixOf source.1) := by
  induction entries generalizing chosen with
  | nil =>
      cases selects
      rfl
  | cons first rest induction =>
      obtain ⟨names, entry⟩ := first
      simp only [selectSources, bind_ok_iff] at selects
      obtain ⟨accepted, accepts, others, selectsRest, answers⟩ := selects
      rw [selectSources, induction selectsRest, accepts_skipping plain some, accepts]
      cases inside : skipped.isPrefixOf names with
      | true =>
          cases accepted <;> cases entry <;> cases answers <;> simp [bind, Except.bind, inside] <;> rfl
      | false =>
          cases accepted <;> cases entry <;> cases answers <;> simp [bind, Except.bind, inside] <;> rfl

end Skipping

end Selecting

section Finding

variable {tree : FileTree} {root : List String} {config : Config} {skipped : String}
  {sources plain : List (List String × List UInt8)}

theorem find_sources_iff {top : Place} (rooted : tree.locate root = .ok top)
    (directory : tree.isDirectoryAt top = true) :
    findSources tree root config (some skipped) = .ok sources ↔ ∃ ignored chosen,
      readIgnoreRules (ignoreFilesBelow tree top config.nestedIgnoreFiles) = .ok ignored ∧
      selectSources (config.selector (some skipped) ignored) (tree.below top) = .ok chosen ∧
      chosen.mergeSort (fun one other => join "/" one.1 ≤ join "/" other.1) = sources := by
  rw [find_sources_at rooted directory, bind_ok_iff]
  refine exists_congr fun ignored => ?_
  rw [exists_and_left]
  refine and_congr_right fun _ => ?_
  simp only [Config.selector, Option.getD_some]
  cases selectSources _ (tree.below top) with
  | error reason => simp
  | ok chosen => simp [pure, Except.pure]

theorem found_unskipped (finds : findSources tree root config (some skipped) = .ok sources)
    (skips : skippedNames skipped ≠ []) :
    ∀ source ∈ sources, ¬ skippedNames skipped <+: source.1 := by
  rcases rooted_or_missing tree root with ⟨top, rooted, directory⟩ | missing
  · obtain ⟨ignored, chosen, _, selects, rfl⟩ := (find_sources_iff rooted directory).mp finds
    intro source listed
    have unskipped := select_unskipped selects source (List.mem_mergeSort.mp listed)
    simpa [SourceSelector.isSkipped, Config.selector, skips, ← List.isPrefixOf_iff_prefix] using
      unskipped
  · cases (find_sources_nowhere missing).symm.trans finds
    simp

/-- With a directory to skip, the files below it are left out and the others stay in their order. -/
theorem find_sources_skipping {before : FileTree} (regular : before.Regular)
    (furnished : FileTree.Furnished before tree) (skips : skippedNames skipped ≠ [])
    (finds : findSources tree root config (some "") = .ok plain) :
    findSources tree root config (some skipped) =
      .ok (plain.filter fun source => !(skippedNames skipped).isPrefixOf source.1) := by
  rcases rooted_or_missing tree root with ⟨top, rooted, directory⟩ | missing
  · obtain ⟨ignored, chosen, reads, selects, rfl⟩ := (find_sources_iff rooted directory).mp finds
    have left := @select_skipping (config.selector (some "") ignored) _ _ (skippedNames skipped) rfl
      skips selects
    refine (find_sources_iff rooted directory).mpr ⟨ignored, _, reads, left, ?_⟩
    have apart := find_sources_apart regular furnished finds
    have distinct := List.pairwise_map.mpr ((apart.increasing (sources_sorted chosen)).imp ne_of_lt)
    -- Both sides are sorted, and no two sources have one path.
    refine List.Perm.eq_of_pairwise ?_ (sources_sorted _) ((sources_sorted chosen).filter _)
      ((List.mergeSort_perm _ _).trans ((List.mergeSort_perm chosen _).filter _).symm)
    intro one other oneListed otherListed before behind
    have held : one ∈ chosen := List.mem_of_mem_filter (List.mem_mergeSort.mp oneListed)
    exact List.inj_on_of_nodup_map distinct (List.mem_mergeSort.mpr held)
      (List.mem_of_mem_filter otherListed) (le_antisymm before behind)
  · cases (find_sources_nowhere missing).symm.trans finds
    exact find_sources_nowhere missing

end Finding

/-! Directories that were made. -/

section Furnishing

variable {before later : FileTree} (furnished : FileTree.Furnished before later) {root : List String}
  {top : Place}
include furnished

theorem below_furnished (top : Place) :
    ∃ more, later.below top = before.below top ++ more ∧ ∀ entry ∈ more, entry.2 = .directory := by
  obtain ⟨more, extended, directories⟩ := furnished.added
  refine ⟨FileTree.below ⟨more⟩ top, ?_, ?_⟩
  · rw [FileTree.below, extended, List.filterMap_append]
    rfl
  · rintro ⟨names, entry⟩ listed
    exact directories (top ++ names, entry) (mem_below_iff.mp listed).2

theorem ignore_files_furnished (nested : Bool) :
    ignoreFilesBelow later top nested = ignoreFilesBelow before top nested := by
  obtain ⟨more, extended, directories⟩ := below_furnished furnished top
  unfold ignoreFilesBelow
  rw [extended, List.filterMap_append, (List.filterMap_eq_nil_iff (l := more)).mpr,
    List.append_nil]
  rintro ⟨names, entry⟩ listed
  cases directories _ listed
  rfl

theorem select_furnished (selector : SourceSelector) :
    selectSources selector (later.below top) = selectSources selector (before.below top) := by
  obtain ⟨more, extended, directories⟩ := below_furnished furnished top
  rw [extended, select_sources_append, select_directories selector directories]
  cases selectSources selector (before.below top) <;>
    simp [bind, Except.bind, pure, Except.pure]

/-- At a root that was there before, the same is found. -/
theorem find_sources_furnished (rooted : before.locate root = .ok top) (config : Config)
    (skipped : Option String) :
    findSources later root config skipped = findSources before root config skipped := by
  have still := FileTree.locate_grown furnished.grown rooted
  obtain ⟨entry, found⟩ := FileTree.entry_of_located rooted
  obtain ⟨more, extended, _⟩ := furnished.added
  have directory : later.isDirectoryAt top = before.isDirectoryAt top := by
    rw [FileTree.isDirectoryAt, FileTree.isDirectoryAt, found, FileTree.entry_extended extended found]
  unfold findSources findSourcesWith
  rw [rooted, still]
  simp only [directory, ignore_files_furnished furnished, select_furnished furnished]

end Furnishing

end RpgSymbols
