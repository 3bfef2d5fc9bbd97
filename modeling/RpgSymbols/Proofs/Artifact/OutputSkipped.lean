import RpgSymbols.Proofs.Artifact.Regeneration
import RpgSymbols.Proofs.Files.Skipping

/-!
The output directory is no place for sources. It is compared with the files below the root name by name,
after it was resolved; and since no file below the root is behind a link, the names behind the resolved
root are what both sides have in common, however root and output directory are spelled.
-/

namespace RpgSymbols

open Text

/-! What is resolved once the output directory is made. -/

section Made

variable {tree made : FileTree} {root target : List String} {top place : Place}
  (makes : tree.makeDirectories target.reverse = .ok made)
include makes

/-- A path that was made is looked up to its end, so it has no null character if it is resolved. -/
theorem output_whole (resolves : tree.resolve target = .ok place) : hasNull target = false := by
  obtain ⟨directory, located, _⟩ := FileTree.make_directories_arrive makes
  have unmet := (FileTree.resolve_ok_iff.mp resolves).1
  rwa [(FileTree.make_directories_furnishes makes).meets_null,
    FileTree.meets_null_located [] located] at unmet

theorem output_located (resolves : tree.resolve target = .ok place) :
    made.locate target = .ok place := by
  have whole := output_whole makes resolves
  obtain ⟨_, ends, _⟩ := FileTree.resolve_ok_iff.mp resolves
  obtain ⟨directory, located, _⟩ := FileTree.make_directories_arrive makes
  have resolved := FileTree.resolve_ok_iff.mp (FileTree.resolve_of_locate [] located whole)
  have same : place = directory := by
    rw [← ends, (FileTree.make_directories_furnishes makes).end_of_resolution, resolved.2.1]
  exact same ▸ located

theorem output_resolved (resolves : tree.resolve target = .ok place) :
    made.resolve target = .ok place :=
  FileTree.resolve_of_locate [] (output_located makes resolves) (output_whole makes resolves)

/-- Above a directory that is reached no link is left, so the root is resolved as before. -/
theorem root_resolved (resolves : tree.resolve target = .ok place)
    (rooted : tree.resolve root = .ok top) (above : top <+: place) :
    made.resolve root = .ok top := by
  have furnished := FileTree.make_directories_furnishes makes
  obtain ⟨unmet, ends, _⟩ := FileTree.resolve_ok_iff.mp rooted
  obtain ⟨reached, plain, _⟩ := FileTree.leads_of_located (output_located makes resolves)
  have plainTop : FileTree.PlainPlace top := fun name listed => plain name (above.subset listed)
  refine FileTree.resolve_ok_iff.mpr ⟨?_, ?_, ?_⟩
  · rw [← furnished.meets_null, unmet]
  · rw [← furnished.end_of_resolution, ends]
  · exact FileTree.locate_straight plainTop (reached.straight.above above)

/-- What is skipped are the names of the output directory behind the resolved root. -/
theorem output_skips {rel : Place} (free : ∀ name ∈ target, SlashFree name)
    (resolves : tree.resolve target = .ok (top ++ rel)) (rooted : tree.resolve root = .ok top) :
    ∃ skipped, relativeOutputDir made target root = .ok skipped ∧ skippedNames skipped = rel := by
  have above : top <+: top ++ rel := List.prefix_append top rel
  have inside : top.isPrefixOf (top ++ rel) = true := List.isPrefixOf_iff_prefix.mpr above
  have relative := relative_of_resolved (output_resolved makes resolves)
    (root_resolved makes resolves rooted above)
  rw [if_pos inside, List.drop_left] at relative
  obtain ⟨_, plain, _⟩ := FileTree.leads_of_located (output_located makes resolves)
  refine ⟨_, relative, skipped_names_of_join ?_ ?_⟩
  · exact fun name listed => plain name (List.mem_append_right top listed)
  · exact fun name listed =>
      FileTree.resolve_free resolves free name (List.mem_append_right top listed)

end Made

/-- A source is resolved to its own place below the resolved root. -/
theorem source_resolved {tree made : FileTree} (grounded : tree.Grounded)
    (whole : ∀ entry ∈ tree.entries, hasNull entry.1 = false)
    (furnished : FileTree.Furnished tree made) {root : List String} {top : Place}
    (rooted : made.resolve root = .ok top) {config : Config} {skipped : Option String}
    {sources : List (List String × List UInt8)}
    (finds : findSources made root config skipped = .ok sources) :
    ∀ source ∈ sources, made.resolve (root ++ source.1) = .ok (top ++ source.1) := by
  rintro ⟨names, bytes⟩ listed
  obtain ⟨place, selected, located, order, sublist⟩ := find_sources_among finds
  have rootedAt := located (List.ne_nil_of_mem listed)
  have wholeRoot := (FileTree.meets_null_located [] rootedAt).symm.trans
    (FileTree.resolve_ok_iff.mp rooted).1
  have same : place = top := by
    have again := FileTree.resolve_of_locate [] rootedAt wholeRoot
    exact Except.ok.inj (again.symm.trans rooted)
  subst same
  -- The file was there before directories were made, and they lead to it still.
  have held : (place ++ names, Entry.file bytes) ∈ tree.entries := by
    obtain ⟨more, extended, directories⟩ := furnished.added
    have below := (mem_below_iff.mp (sublist.subset
      (List.mem_map_of_mem (order.mem_iff.mp listed)))).2
    rw [extended] at below
    rcases List.mem_append.mp below with before | added
    · exact before
    · cases directories _ added
  obtain ⟨links, bound, leads⟩ := FileTree.locate_iff.mp rootedAt
  have onward := (FileTree.leads_below grounded held (by simp)).grown furnished.grown
  have locates : made.locate (root ++ names) = .ok (place ++ names) :=
    FileTree.locate_iff.mpr ⟨links + 0, bound, leads.append onward⟩
  have wholeNames : hasNull names = false := by
    have wholeEntry := whole _ held
    rw [hasNull, List.any_append, Bool.or_eq_false_iff] at wholeEntry
    exact wholeEntry.2
  refine FileTree.resolve_of_locate [] locates ?_
  rw [hasNull, List.any_append, ← hasNull, ← hasNull, wholeRoot, wholeNames, Bool.or_false]

/-! Runs. -/

theorem run_settings_unique {tree : FileTree} {root : List String} {config : Option Config}
    {one other : Config} (first : RunSettings tree root config one)
    (second : RunSettings tree root config other) : one = other := by
  cases config with
  | some given => exact first.symm.trans second
  | none => exact Loaded.config.inj (first.symm.trans second)

theorem run_output_unique {tree : FileTree} {root one other : List String} {config : Config}
    {output : Option (List String)} (first : RunOutput tree root config output one)
    (second : RunOutput tree root config output other) : one = other := by
  cases output with
  | some given => exact first.symm.trans second
  | none => exact Except.ok.inj (Except.ok.inj (first.symm.trans second))

/-- A run takes its rows from the sources found without its output directory. -/
theorem generated_from_sources {tree made : FileTree} {root target : List String}
    {output : Option (List String)} {config : Option Config} {settings : Config} {skipped : String}
    (settled : RunSettings tree root config settings)
    (directed : RunOutput tree root settings output target)
    (makes : tree.makeDirectories target.reverse = .ok made)
    (skips : relativeOutputDir made target root = .ok skipped) {generated : Generated}
    (returns : generate tree root output config = .ok generated) :
    ∃ sources, findSources made root settings (some skipped) = .ok sources ∧
      generated.documents = (freeDocuments sources).length ∧
      generated.records = SymbolRecord.sort ((freeDocuments sources).flatMap
        (rowsAlone (LocalSource.mk made root).toContentSource settings.homeDirectory)) := by
  obtain ⟨loaded, place, settles, directs, runs⟩ := generate_iff.mp returns
  cases run_settings_unique settles settled
  cases run_output_unique directs directed
  obtain ⟨built, left, sources, makesAlso, skipsAlso, finds, _, _, sorted, counted⟩ :=
    generate_steps runs
  cases makesAlso.symm.trans makes
  cases skipsAlso.symm.trans skips
  have gathered := gathered_all (LocalSource.mk made root).toContentSource settings.homeDirectory
    sources
  refine ⟨sources, finds, counted.trans gathered.documents, ?_⟩
  rw [sorted, gathered.records]

/-- With an output directory that is resolved to a place below the resolved root, no source is resolved
to a place below it; all other sources that are found if nothing is skipped are found, in their order;
and the rows are taken from these. If the root was there before the directory was made, it does not
matter for what is found if nothing is skipped. -/
theorem output_dir_skipped {tree : FileTree} (grounded : tree.Grounded)
    (whole : ∀ entry ∈ tree.entries, hasNull entry.1 = false) {root : List String}
    {output : Option (List String)} {config : Option Config} {settings : Config}
    {target : List String} {made : FileTree} {top rel : Place}
    (rootNames : ∀ name ∈ root, SlashFree name)
    (outputNames : ∀ names, output = some names → ∀ name ∈ names, SlashFree name)
    (settled : RunSettings tree root config settings)
    (directed : RunOutput tree root settings output target)
    (rooted : tree.resolve root = .ok top) (inside : tree.resolve target = .ok (top ++ rel))
    (proper : rel ≠ []) (makes : tree.makeDirectories target.reverse = .ok made) :
    (∀ skip, ∀ start, tree.locate root = .ok start →
      findSources made root settings skip = findSources tree root settings skip) ∧
    ∃ skipped, relativeOutputDir made target root = .ok skipped ∧
      (∀ sources, findSources made root settings (some skipped) = .ok sources →
        ∀ source ∈ sources, ∃ place, made.resolve (root ++ source.1) = .ok place ∧
          ¬ top ++ rel <+: place) ∧
      (∀ plain, findSources made root settings (some "") = .ok plain →
        ∃ sources, findSources made root settings (some skipped) = .ok sources ∧
          sources.Sublist plain ∧ ∀ source ∈ plain, source ∈ sources ↔
            ¬ ∃ place, made.resolve (root ++ source.1) = .ok place ∧ top ++ rel <+: place) ∧
      ∀ generated, generate tree root output config = .ok generated →
        ∃ sources, findSources made root settings (some skipped) = .ok sources ∧
          generated.documents = (freeDocuments sources).length ∧
          generated.records = SymbolRecord.sort ((freeDocuments sources).flatMap
            (rowsAlone (LocalSource.mk made root).toContentSource settings.homeDirectory)) := by
  have furnished := FileTree.make_directories_furnishes makes
  have free : ∀ name ∈ target, SlashFree name := by
    cases output with
    | some given => exact directed ▸ outputNames given rfl
    | none => exact output_dir_free rootNames directed
  obtain ⟨skipped, relative, skips⟩ := output_skips makes free inside rooted
  have resolvedRoot := root_resolved makes inside rooted (List.prefix_append top rel)
  have named : skippedNames skipped ≠ [] := skips ▸ proper
  refine ⟨fun skip start located => find_sources_furnished furnished located settings skip, skipped,
    relative, ?_, ?_, fun generated => generated_from_sources settled directed makes relative⟩
  · intro sources finds source listed
    refine ⟨_, source_resolved grounded whole furnished resolvedRoot finds source listed, ?_⟩
    rw [List.prefix_append_right_inj, ← skips]
    exact found_unskipped finds named source listed
  · intro plain finds
    refine ⟨_, find_sources_skipping grounded.toRegular furnished named finds,
      List.filter_sublist, ?_⟩
    intro source listed
    have resolved := source_resolved grounded whole furnished resolvedRoot finds source listed
    simp only [resolved, List.mem_filter, listed, true_and, Except.ok.injEq, exists_eq_left',
      List.prefix_append_right_inj, skips, Bool.not_eq_true', ← Bool.not_eq_true,
      List.isPrefixOf_iff_prefix]

/-- A project that is reached through a link, as its output directory is. A source of an earlier run is
left in that, and there is another one in a directory whose name only begins like it. -/
def outputLinked : FileTree where
  entries := [
    (["base"], .directory),
    (["base", "proj"], .directory),
    (["base", "proj", "build"], .directory),
    (["base", "proj", "build", "gen"], .directory),
    (["base", "proj", "build", "gen", "old.rpgle"], .file []),
    (["base", "proj", "build", "gentle"], .directory),
    (["base", "proj", "build", "gentle", "kept.rpgle"], .file []),
    (["base", "proj", "main.rpgle"], .file []),
    (["base", "proj", "out"], .link "../../home/build//gen/."),
    (["home"], .link "base/proj")]

theorem output_linked_grounded : outputLinked.Grounded :=
  ⟨⟨by decide +kernel, by decide +kernel⟩, by decide +kernel, by decide +kernel⟩

def outputLinkedSources : List (List String × List UInt8) :=
  [(["build", "gen", "old.rpgle"], []), (["build", "gentle", "kept.rpgle"], []), (["main.rpgle"], [])]

theorem output_linked_found :
    findSources outputLinked ["home"] {} (some "") = .ok outputLinkedSources := by
  have located : outputLinked.locate ["home"] = .ok ["base", "proj"] := by decide +kernel
  have directory : outputLinked.isDirectoryAt ["base", "proj"] = true := by decide +kernel
  have unignored : ignoreFilesBelow outputLinked ["base", "proj"] false = [] :=
    no_ignore_files (by decide +kernel)
  have selected : selectSources
      ⟨({} : Config).extensions.map caseFold, skippedNames "", [], [], fun _ => .ok false⟩
      (outputLinked.below ["base", "proj"]) = .ok outputLinkedSources := by decide +kernel
  have ordered : outputLinkedSources.Pairwise fun one other =>
      decide (join "/" one.1 ≤ join "/" other.1) = true := by decide +kernel
  exact find_sources_ordered located directory unignored selected ordered

theorem output_linked_skipped :
    outputLinked.Grounded ∧ (∀ entry ∈ outputLinked.entries, hasNull entry.1 = false) ∧
      outputLinked.resolve ["home"] = .ok ["base", "proj"] ∧
      outputLinked.resolve ["home", "build", "..", "out"] = .ok ["base", "proj", "build", "gen"] ∧
      ∃ skipped sources, findSources outputLinked ["home"] {} (some skipped) = .ok sources ∧
        relativeOutputDir outputLinked ["home", "build", "..", "out"] ["home"] = .ok skipped ∧
        (["main.rpgle"], []) ∈ sources ∧ (["build", "gentle", "kept.rpgle"], []) ∈ sources ∧
        (["build", "gen", "old.rpgle"], []) ∉ sources := by
  have whole : ∀ entry ∈ outputLinked.entries, hasNull entry.1 = false := by decide +kernel
  have rooted : outputLinked.resolve ["home"] = .ok ["base", "proj"] := by decide +kernel
  have inside : outputLinked.resolve ["home", "build", "..", "out"] =
      .ok (["base", "proj"] ++ ["build", "gen"]) := by decide +kernel
  have makes : outputLinked.makeDirectories ["home", "build", "..", "out"].reverse =
      .ok outputLinked := FileTree.make_directories_again (by decide +kernel)
  have free : ∀ name ∈ ["home", "build", "..", "out"], SlashFree name := by decide
  have given : ∀ names, some ["home", "build", "..", "out"] = some names →
      ∀ name ∈ names, SlashFree name := fun names same => Option.some.inj same ▸ free
  have settled : RunSettings outputLinked ["home"] (some {}) {} := rfl
  have directed : RunOutput outputLinked ["home"] {} (some ["home", "build", "..", "out"])
      ["home", "build", "..", "out"] := rfl
  obtain ⟨_, skipped, skips, _, found, _⟩ := output_dir_skipped output_linked_grounded whole
    (by decide) given settled directed rooted inside (by decide) makes
  obtain ⟨sources, finds, _, member⟩ := found _ output_linked_found
  have resolves : outputLinked.resolve ["home", "main.rpgle"] =
      .ok ["base", "proj", "main.rpgle"] := by decide +kernel
  have resolvesKept : outputLinked.resolve ["home", "build", "gentle", "kept.rpgle"] =
      .ok ["base", "proj", "build", "gentle", "kept.rpgle"] := by decide +kernel
  have resolvesOld : outputLinked.resolve ["home", "build", "gen", "old.rpgle"] =
      .ok ["base", "proj", "build", "gen", "old.rpgle"] := by decide +kernel
  refine ⟨output_linked_grounded, whole, rooted, inside, skipped, sources, finds, skips,
    (member _ (by decide)).mpr ?_, (member _ (by decide)).mpr ?_, fun listed => ?_⟩
  · rintro ⟨place, again, below⟩
    cases resolves.symm.trans again
    exact absurd below (by decide)
  · rintro ⟨place, again, below⟩
    cases resolvesKept.symm.trans again
    exact absurd below (by decide)
  · exact (member _ (by decide)).mp listed ⟨_, resolvesOld, by decide⟩

end RpgSymbols
