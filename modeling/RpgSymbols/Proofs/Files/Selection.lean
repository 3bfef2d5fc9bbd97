import RpgSymbols.Files.Sources
import RpgSymbols.Proofs.Files.Writing
import RpgSymbols.Proofs.Text.Parts

/-!
Sources are files of the tree, each listed once. Their relative paths tell them apart, since no name
in a tree holds a slash.
-/

namespace RpgSymbols

open Text

/-- A tree as file systems have them: one entry at a place, and no name with a slash. -/
structure FileTree.Regular (tree : FileTree) : Prop where
  distinct : (tree.entries.map Prod.fst).Nodup
  slashFree : ∀ entry ∈ tree.entries, ∀ name ∈ entry.1, SlashFree name

theorem place_text_injective {one other : Place} (named : one ≠ []) (otherNamed : other ≠ [])
    (free : ∀ name ∈ one, SlashFree name) (otherFree : ∀ name ∈ other, SlashFree name)
    (same : one.text = other.text) : one = other := by
  have joined : join "/" one = join "/" other := by
    have letters := congrArg String.toList same
    rw [Place.text, Place.text, String.toList_append, String.toList_append] at letters
    exact String.toList_injective (List.append_cancel_left letters)
  rw [← split_join named free, joined, split_join otherNamed otherFree]

theorem select_sources_sublist {selector : SourceSelector} {entries : List (List String × Entry)}
    {sources : List (List String × List UInt8)}
    (selects : selectSources selector entries = .ok sources) :
    (sources.map fun source => (source.1, Entry.file source.2)).Sublist entries := by
  induction entries generalizing sources with
  | nil =>
      cases selects
      exact List.Sublist.slnil
  | cons first rest induction =>
      obtain ⟨names, entry⟩ := first
      rw [selectSources] at selects
      cases accepts : selector.accepts names entry with
      | error reason =>
          rw [accepts] at selects
          cases selects
      | ok accepted =>
          cases others : selectSources selector rest with
          | error reason =>
              rw [accepts, others] at selects
              cases selects
          | ok found =>
              rw [accepts, others] at selects
              have kept := induction others
              simp only [bind, Except.bind] at selects
              split at selects
              · cases selects
                exact kept.cons_cons _
              · cases selects
                exact kept.cons _

theorem find_sources_among {reader : IgnoreReader} {tree : FileTree} {root : List String}
    {config : Config} {skipped : Option String} {sources : List (List String × List UInt8)}
    (finds : findSourcesWith reader tree root config skipped = .ok sources) :
    ∃ place selected, (sources ≠ [] → tree.locate root = .ok place) ∧ sources.Perm selected ∧
      (selected.map fun source => (source.1, Entry.file source.2)).Sublist (tree.below place) := by
  unfold findSourcesWith at finds
  split at finds
  · cases finds
    exact ⟨[], [], fun some => absurd rfl some, .refl [], List.nil_sublist _⟩
  · rename_i place located
    split at finds
    · cases finds
      exact ⟨[], [], fun some => absurd rfl some, .refl [], List.nil_sublist _⟩
    · cases reads : reader (ignoreFilesBelow tree place config.nestedIgnoreFiles) with
      | error reason =>
          rw [reads] at finds
          cases finds
      | ok ignored =>
          rw [reads] at finds
          simp only [bind, Except.bind] at finds
          split at finds
          · cases finds
          · rename_i selected selects
            cases finds
            exact ⟨place, selected, fun _ => located, List.mergeSort_perm _ _,
              select_sources_sublist selects⟩

/-- Without a directory at the root there are no sources. -/
theorem find_sources_nowhere {reader : IgnoreReader} {tree : FileTree} {root : List String}
    {config : Config} {skipped : Option String}
    (missing : ∀ place, tree.locate root = .ok place → tree.isDirectoryAt place = false) :
    findSourcesWith reader tree root config skipped = .ok [] := by
  unfold findSourcesWith
  split
  · rfl
  · rename_i place locates
    rw [missing place locates]
    rfl

/-- Either there is a directory at the root, or there is none. -/
theorem rooted_or_missing (tree : FileTree) (root : List String) :
    (∃ place, tree.locate root = .ok place ∧ tree.isDirectoryAt place = true) ∨
      ∀ place, tree.locate root = .ok place → tree.isDirectoryAt place = false := by
  by_cases there : ∃ place, tree.locate root = .ok place ∧ tree.isDirectoryAt place = true
  · exact .inl there
  · exact .inr fun place locates =>
      Bool.eq_false_iff.mpr fun directory => there ⟨place, locates, directory⟩

/-- Directories aside, nothing below the place has the name of an ignore file. -/
theorem no_ignore_files {tree : FileTree} {place : Place}
    (others : ∀ entry ∈ tree.below place,
      entry.2 = .directory ∨ entry.1.getLast? ≠ some ignoreFileName) {nested : Bool} :
    ignoreFilesBelow tree place nested = [] := by
  unfold ignoreFilesBelow
  rw [List.filterMap_eq_nil_iff.mpr]
  · exact List.mergeSort_of_pairwise .nil
  · rintro ⟨names, entry⟩ listed
    cases entry with
    | file bytes =>
        rcases others _ listed with directory | unnamed
        · cases directory
        · simp [beq_eq_false_iff_ne.mpr unnamed]
    | directory => rfl
    | link target => rfl

@[simp] theorem read_no_ignore_files : readIgnoreRules [] = .ok fun _ => .ok false :=
  rfl

/-- Without ignore files, the sources are what is selected, if that is listed in order. -/
theorem find_sources_ordered {tree : FileTree} {root : List String} {config : Config}
    {skipped : String} {place : Place} {sources : List (List String × List UInt8)}
    (located : tree.locate root = .ok place) (directory : tree.isDirectoryAt place = true)
    (unignored : ignoreFilesBelow tree place config.nestedIgnoreFiles = [])
    (selected : selectSources ⟨config.extensions.map caseFold, skippedNames skipped,
      config.includePatterns, config.excludePatterns, fun _ => .ok false⟩ (tree.below place) =
        .ok sources)
    (ordered : sources.Pairwise fun one other =>
      decide (join "/" one.1 ≤ join "/" other.1) = true) :
    findSources tree root config (some skipped) = .ok sources := by
  simp only [findSources, findSourcesWith, located, directory, unignored, read_no_ignore_files,
    bind, Except.bind, Option.getD_some, selected, List.mergeSort_of_pairwise ordered]
  rfl

section Below

variable {tree : FileTree} {place : Place}

theorem place_of_relative {whole : Place} {names : List String} {held entry : Entry}
    (found : (if place.isPrefixOf whole && !(whole.drop place.length).isEmpty then
      some (whole.drop place.length, held) else none) = some (names, entry)) :
    whole = place ++ names ∧ names ≠ [] ∧ held = entry := by
  split at found
  · rename_i inside
    rw [Bool.and_eq_true, List.isPrefixOf_iff_prefix] at inside
    obtain ⟨⟨relative, rfl⟩, remains⟩ := inside
    rw [List.drop_left] at found remains
    cases found
    exact ⟨rfl, by simpa using remains, rfl⟩
  · cases found

/-- What is listed below a place stands at the place and the names behind it. -/
theorem mem_below_iff {names : List String} {entry : Entry} :
    (names, entry) ∈ tree.below place ↔ names ≠ [] ∧ (place ++ names, entry) ∈ tree.entries := by
  constructor
  · intro listed
    obtain ⟨⟨whole, held⟩, member, found⟩ := List.mem_filterMap.mp listed
    obtain ⟨rfl, named, rfl⟩ := place_of_relative found
    exact ⟨named, member⟩
  · rintro ⟨named, member⟩
    have inside : place.isPrefixOf (place ++ names) = true :=
      List.isPrefixOf_iff_prefix.mpr (List.prefix_append place names)
    exact List.mem_filterMap.mpr ⟨_, member, by simp [inside, named]⟩

theorem below_distinct (distinct : (tree.entries.map Prod.fst).Nodup) (place : Place) :
    (tree.below place).Pairwise fun one other => one.1 ≠ other.1 := by
  have places := List.pairwise_map.mp distinct
  refine places.filterMap _ ?_
  rintro ⟨one, _⟩ ⟨other, _⟩ differs ⟨names, _⟩ here ⟨others, _⟩ there same
  obtain ⟨rfl, _, _⟩ := place_of_relative here
  obtain ⟨rfl, _, _⟩ := place_of_relative there
  exact differs (congrArg (place ++ ·) same)

end Below

/-- What makes sources of a regular tree different documents. -/
structure SourcesApart (sources : List (List String × List UInt8)) : Prop where
  named : ∀ source ∈ sources, source.1 ≠ []
  slashFree : ∀ source ∈ sources, ∀ name ∈ source.1, SlashFree name
  distinct : sources.Pairwise fun one other => one.1 ≠ other.1

/-- A directory that was made is no source, so what was made does not matter. -/
theorem find_sources_apart {reader : IgnoreReader} {tree made : FileTree} (regular : tree.Regular)
    (furnished : FileTree.Furnished tree made) {root : List String} {config : Config}
    {skipped : Option String} {sources : List (List String × List UInt8)}
    (finds : findSourcesWith reader made root config skipped = .ok sources) :
    SourcesApart sources := by
  obtain ⟨place, selected, _, order, sublist⟩ := find_sources_among finds
  have below : ∀ source ∈ sources, (source.1, Entry.file source.2) ∈ made.below place := by
    intro source listed
    exact sublist.subset (List.mem_map_of_mem (order.mem_iff.mp listed))
  refine ⟨fun source listed => (mem_below_iff.mp (below source listed)).1, ?_, ?_⟩
  · intro source listed name inside
    have held := (mem_below_iff.mp (below source listed)).2
    obtain ⟨more, grown, directories⟩ := furnished.added
    rw [grown] at held
    rcases List.mem_append.mp held with before | added
    · exact regular.slashFree _ before name (List.mem_append_right _ inside)
    · cases directories _ added
  · have apart := (below_distinct (furnished.distinct regular.distinct) place).sublist sublist
    rw [List.pairwise_map] at apart
    exact (order.pairwise_iff (fun differs => Ne.symm differs)).mpr apart

end RpgSymbols
