import RpgSymbols.Proofs.Files.Lookup
import Mathlib.Data.String.Basic

/-!
Which files are listed as sources, and in which order. The listing runs over everything below the root
that directories lead to, so no link is passed; hence every file in it is resolved to its own place
below the resolved root. Who reads the ignore files is left open, and so is what is decided: only that
it is, about every file that comes into question.
-/

namespace RpgSymbols

open Text Pattern

/-! What directories lead to. -/

/-- The names lead from a place to an entry, from directory to directory and through no link. -/
inductive FileTree.StandsBelow (tree : FileTree) : Place → List String → Entry → Prop
  | child {here : Place} {name : String} {entry : Entry}
      (found : tree.entry? (here ++ [name]) = some entry) : StandsBelow tree here [name] entry
  | deeper {here : Place} {name : String} {names : List String} {entry : Entry}
      (inside : tree.entry? (here ++ [name]) = some .directory)
      (below : StandsBelow tree (here ++ [name]) names entry) :
      StandsBelow tree here (name :: names) entry

namespace FileTree

variable {tree : FileTree}

theorem StandsBelow.stands {here : Place} {names : List String} {entry : Entry}
    (below : tree.StandsBelow here names entry) :
    names ≠ [] ∧ tree.entry? (here ++ names) = some entry := by
  induction below with
  | child found => exact ⟨List.cons_ne_nil _ _, found⟩
  | deeper _ _ induction => exact ⟨List.cons_ne_nil _ _, List.append_cons _ _ _ ▸ induction.2⟩

section Grounded

variable (grounded : tree.Grounded)
include grounded

theorem stands_below_of_entry {here : Place} {names : List String} {entry : Entry}
    (named : names ≠ []) (found : tree.entry? (here ++ names) = some entry) :
    tree.StandsBelow here names entry := by
  induction names generalizing here with
  | nil => exact absurd rfl named
  | cons name rest induction =>
      rw [List.append_cons] at found
      cases rest with
      | nil =>
          rw [List.append_nil] at found
          exact .child found
      | cons next rest =>
          have inside := directory_entry_above grounded (Option.isSome_of_eq_some found)
          exact .deeper inside (induction (List.cons_ne_nil _ _) found)

theorem directory_of_stands_below {here : Place} {names : List String} {entry : Entry}
    (below : tree.StandsBelow here names entry) : tree.isDirectoryAt here = true := by
  obtain ⟨named, found⟩ := below.stands
  obtain ⟨name, rest, rfl⟩ := List.exists_cons_of_ne_nil named
  exact directory_above grounded (Option.isSome_of_eq_some found)

/-- The listing below a place has exactly what directories lead to. -/
theorem mem_below_iff_stands {here : Place} {names : List String} {entry : Entry} :
    (names, entry) ∈ tree.below here ↔ tree.StandsBelow here names entry := by
  rw [mem_below_iff]
  constructor
  · rintro ⟨named, listed⟩
    exact stands_below_of_entry grounded named
      (entry_of_listed grounded (List.append_ne_nil_of_right_ne_nil _ named) listed)
  · intro below
    obtain ⟨named, found⟩ := below.stands
    exact ⟨named, place_of_entry (List.append_ne_nil_of_right_ne_nil _ named) found⟩

/-- A file below the root is resolved to its own place, which is below the resolved root. So no file of
the listing would be refused for leading out of the root. -/
theorem resolve_stands_below (whole : ∀ entry ∈ tree.entries, hasNull entry.1 = false)
    {root names : List String} {top : Place} {bytes : List UInt8}
    (rooted : tree.locate root = .ok top) (below : tree.StandsBelow top names (.file bytes)) :
    tree.resolve (root ++ names) = .ok (top ++ names) ∧ tree.resolve root = .ok top := by
  obtain ⟨named, found⟩ := below.stands
  have listed := place_of_entry (List.append_ne_nil_of_right_ne_nil _ named) found
  have located := locate_listed grounded rooted listed (by simp)
  exact ⟨resolve_of_locate [] located (whole_of_located whole located),
    resolve_of_locate [] rooted (whole_of_located whole rooted)⟩

end Grounded

end FileTree

/-! What is selected. -/

/-- A file with the names comes into question: its name has one of the extensions, in any case, and
it is not in the directory to skip, if there is one. -/
structure Config.Considers (config : Config) (skipped : Option String) (names : List String) :
    Prop where
  extended : ∃ extension ∈ config.extensions,
    (caseFold extension).toList <:+ (caseFold (names.getLast?.getD "")).toList
  unskipped : skippedNames (skipped.getD config.outputDir) ≠ [] →
    ¬ skippedNames (skipped.getD config.outputDir) <+: names

/-- A file with the names is a source: it comes into question, is not ignored, and the patterns let it
pass. -/
structure Config.Selects (config : Config) (skipped : Option String) (ignored : List String → Bool)
    (names : List String) : Prop extends config.Considers skipped names where
  kept : ignored names = false
  included : config.includePatterns ≠ [] →
    ∃ pattern ∈ config.includePatterns, matchesGlob pattern (join "/" names) = true
  unexcluded : ∀ pattern ∈ config.excludePatterns, matchesGlob pattern (join "/" names) = false

/-- The reader makes a matcher from the ignore files below a place, and what that says of the files that
come into question is what the predicate says. -/
def FileTree.IgnoresBelow (tree : FileTree) (reader : IgnoreReader) (top : Place) (config : Config)
    (skipped : Option String) (ignored : List String → Bool) : Prop :=
  ∃ matcher, reader (ignoreFilesBelow tree top config.nestedIgnoreFiles) = .ok matcher ∧
    ∀ names bytes, tree.StandsBelow top names (.file bytes) → config.Considers skipped names →
      matcher names = .ok (ignored names)

def Config.selector (config : Config) (skipped : Option String) (matcher : IgnoreMatcher) :
    SourceSelector where
  extensions := config.extensions.map caseFold
  skipped := skippedNames (skipped.getD config.outputDir)
  includePatterns := config.includePatterns
  excludePatterns := config.excludePatterns
  ignored := matcher

section Selecting

variable {config : Config} {skipped : Option String} {matcher : IgnoreMatcher}
  {ignored : List String → Bool} {names : List String}

theorem Config.considers_iff :
    config.Considers skipped names ↔ (config.selector skipped matcher).hasExtension names = true ∧
      (config.selector skipped matcher).isSkipped names = false := by
  have extended : (config.selector skipped matcher).hasExtension names = true ↔
      ∃ extension ∈ config.extensions,
        (caseFold extension).toList <:+ (caseFold (names.getLast?.getD "")).toList := by
    simp [SourceSelector.hasExtension, selector, endsWith]
  have unskipped : (config.selector skipped matcher).isSkipped names = false ↔
      (skippedNames (skipped.getD config.outputDir) ≠ [] →
        ¬ skippedNames (skipped.getD config.outputDir) <+: names) := by
    simp [SourceSelector.isSkipped, selector, ← List.isPrefixOf_iff_prefix]
  rw [extended, unskipped]
  exact ⟨fun held => ⟨held.extended, held.unskipped⟩, fun held => ⟨held.1, held.2⟩⟩

theorem Config.selects_iff :
    config.Selects skipped ignored names ↔ config.Considers skipped names ∧ ignored names = false ∧
      (config.selector skipped matcher).survives names = true := by
  have survives : (config.selector skipped matcher).survives names = true ↔
      (config.includePatterns ≠ [] →
        ∃ pattern ∈ config.includePatterns, matchesGlob pattern (join "/" names) = true) ∧
      ∀ pattern ∈ config.excludePatterns, matchesGlob pattern (join "/" names) = false := by
    simp only [SourceSelector.survives, selector, Bool.and_eq_true, Bool.or_eq_true,
      List.isEmpty_iff, List.any_eq_true, Bool.not_eq_true', List.any_eq_false,
      Bool.not_eq_true, ne_eq, or_iff_not_imp_left]
  rw [survives]
  constructor
  · exact fun held => ⟨held.toConsiders, held.kept, held.included, held.unexcluded⟩
  · rintro ⟨considered, kept, included, unexcluded⟩
    exact ⟨considered, kept, included, unexcluded⟩

instance (config : Config) (skipped : Option String) (names : List String) :
    Decidable (config.Considers skipped names) :=
  decidable_of_iff _ (@Config.considers_iff config skipped (fun _ => .ok false) names).symm

instance (config : Config) (skipped : Option String) (ignored : List String → Bool)
    (names : List String) : Decidable (config.Selects skipped ignored names) :=
  decidable_of_iff _ (@Config.selects_iff config skipped (fun _ => .ok false) ignored names).symm

/-- A file is accepted exactly if it is a source. -/
theorem accepts_file {bytes : List UInt8}
    (decides : config.Considers skipped names → matcher names = .ok (ignored names)) :
    (config.selector skipped matcher).accepts names (.file bytes) =
      .ok (decide (config.Selects skipped ignored names)) := by
  rw [SourceSelector.accepts]
  by_cases considered : config.Considers skipped names
  · obtain ⟨extended, unskipped⟩ := (@Config.considers_iff _ _ matcher _).mp considered
    have decided : (config.selector skipped matcher).ignored names = .ok (ignored names) :=
      decides considered
    rw [extended, unskipped, decided]
    cases kept : ignored names with
    | true =>
        have refused : ¬ config.Selects skipped ignored names :=
          fun held => absurd (kept.symm.trans held.kept) (by decide)
        rw [decide_eq_false refused]
        rfl
    | false =>
        have same : decide (config.Selects skipped ignored names) =
            (config.selector skipped matcher).survives names := by
          rw [Bool.eq_iff_iff, decide_eq_true_iff, @Config.selects_iff _ _ matcher, kept]
          simp [considered]
        rw [same]
        rfl
  · have refused : ¬ config.Selects skipped ignored names := fun held => considered held.toConsiders
    rw [decide_eq_false refused]
    rw [@Config.considers_iff _ _ matcher] at considered
    rw [if_pos]
    simpa [imp_iff_not_or] using considered

/-- If the selector decides about every file, those that it chooses are selected. -/
theorem select_sources_chosen {selector : SourceSelector} {chosen : List String → Bool}
    {entries : List (List String × Entry)}
    (accepts : ∀ names bytes, (names, .file bytes) ∈ entries →
      selector.accepts names (.file bytes) = .ok (chosen names)) :
    ∃ sources, selectSources selector entries = .ok sources ∧ ∀ names bytes,
      (names, bytes) ∈ sources ↔ (names, .file bytes) ∈ entries ∧ chosen names = true := by
  induction entries with
  | nil => exact ⟨[], rfl, by simp⟩
  | cons first rest induction =>
      obtain ⟨found, selects, member⟩ := induction fun names bytes listed =>
        accepts names bytes (List.mem_cons_of_mem _ listed)
      obtain ⟨names, entry⟩ := first
      rw [selectSources, selects]
      cases entry with
      | file bytes =>
          rw [accepts names bytes List.mem_cons_self]
          by_cases suits : chosen names = true
          · refine ⟨(names, bytes) :: found, by rw [suits]; rfl, ?_⟩
            intro others content
            simp only [List.mem_cons, Prod.mk.injEq, Entry.file.injEq, member, or_and_right]
            refine or_congr_left ⟨fun same => ⟨same, same.1 ▸ suits⟩, And.left⟩
          · rw [Bool.not_eq_true] at suits
            refine ⟨found, by rw [suits]; rfl, ?_⟩
            intro others content
            simp only [List.mem_cons, Prod.mk.injEq, Entry.file.injEq, member, or_and_right]
            refine (or_iff_right ?_).symm
            rintro ⟨⟨rfl, _⟩, chosen⟩
            exact absurd (suits.symm.trans chosen) (by decide)
      | directory => exact ⟨found, rfl, by simp [member]⟩
      | link target => exact ⟨found, rfl, by simp [member]⟩

end Selecting

theorem sources_sorted (sources : List (List String × List UInt8)) :
    (sources.mergeSort fun one other => join "/" one.1 ≤ join "/" other.1).Pairwise
      fun one other => join "/" one.1 ≤ join "/" other.1 := by
  have transitive : ∀ one other third : List String × List UInt8,
      decide (join "/" one.1 ≤ join "/" other.1) = true →
      decide (join "/" other.1 ≤ join "/" third.1) = true →
      decide (join "/" one.1 ≤ join "/" third.1) = true := by
    intro one other third
    simp only [decide_eq_true_eq]
    exact le_trans
  have total : ∀ one other : List String × List UInt8,
      (decide (join "/" one.1 ≤ join "/" other.1) ||
        decide (join "/" other.1 ≤ join "/" one.1)) = true := by
    intro one other
    simp only [Bool.or_eq_true, decide_eq_true_eq]
    exact le_total _ _
  exact (List.pairwise_mergeSort transitive total sources).imp of_decide_eq_true

/-- Sources that are sorted increase strictly, since their relative paths tell them apart. -/
theorem SourcesApart.increasing {sources : List (List String × List UInt8)}
    (apart : SourcesApart sources)
    (sorted : sources.Pairwise fun one other => join "/" one.1 ≤ join "/" other.1) :
    sources.Pairwise fun one other => join "/" one.1 < join "/" other.1 := by
  refine (sorted.and apart.distinct).imp_of_mem ?_
  rintro one other listed otherListed ⟨before, differs⟩
  refine lt_of_le_of_ne before fun same => differs ?_
  rw [← split_join (apart.named one listed) (apart.slashFree one listed), same,
    split_join (apart.named other otherListed) (apart.slashFree other otherListed)]

/-- Below a directory, what is found is what directories lead to and the settings select. -/
theorem find_sources_selected {reader : IgnoreReader} {tree : FileTree} (grounded : tree.Grounded)
    {root : List String} {top : Place} (rooted : tree.locate root = .ok top)
    (directory : tree.isDirectoryAt top = true)
    {config : Config} {skipped : Option String} {ignored : List String → Bool}
    (ignores : tree.IgnoresBelow reader top config skipped ignored) :
    ∃ sources, findSourcesWith reader tree root config skipped = .ok sources ∧
      (sources.Pairwise fun one other => join "/" one.1 ≤ join "/" other.1) ∧
      ∀ names bytes, (names, bytes) ∈ sources ↔
        tree.StandsBelow top names (.file bytes) ∧ config.Selects skipped ignored names := by
  obtain ⟨matcher, reads, decides⟩ := ignores
  have accepts : ∀ names bytes, (names, .file bytes) ∈ tree.below top →
      (config.selector skipped matcher).accepts names (.file bytes) =
        .ok (decide (config.Selects skipped ignored names)) := by
    intro names bytes listed
    exact accepts_file (decides names bytes ((FileTree.mem_below_iff_stands grounded).mp listed))
  obtain ⟨selected, selects, member⟩ := select_sources_chosen accepts
  have finds : findSourcesWith reader tree root config skipped =
      .ok (selected.mergeSort fun one other => join "/" one.1 ≤ join "/" other.1) := by
    simp only [Config.selector] at selects
    simp only [findSourcesWith, rooted, directory, reads, bind, Except.bind, selects]
    rfl
  refine ⟨_, finds, sources_sorted selected, ?_⟩
  intro names bytes
  rw [List.mem_mergeSort, member, FileTree.mem_below_iff_stands grounded, decide_eq_true_iff]

/-- Whoever decides what is ignored, the sources are the regular files that directories lead to from the
root and that the settings select, each once and in increasing order of the relative paths. Each is
resolved to a place below the resolved root. -/
theorem sources_listed_exactly {reader : IgnoreReader} {tree : FileTree} (grounded : tree.Grounded)
    (whole : ∀ entry ∈ tree.entries, hasNull entry.1 = false) {root : List String}
    {config : Config} {skipped : Option String} {ignored : List String → Bool}
    (ignores : ∀ top, tree.locate root = .ok top →
      tree.IgnoresBelow reader top config skipped ignored) :
    ∃ sources, findSourcesWith reader tree root config skipped = .ok sources ∧
      (sources.Pairwise fun one other => join "/" one.1 < join "/" other.1) ∧
      (∀ names bytes, (names, bytes) ∈ sources ↔
        (∃ top, tree.locate root = .ok top ∧ tree.StandsBelow top names (.file bytes)) ∧
          config.Selects skipped ignored names) ∧
      ∀ source ∈ sources, ∃ place top, tree.resolve (root ++ source.1) = .ok place ∧
        tree.resolve root = .ok top ∧ top <+: place := by
  rcases rooted_or_missing tree root with ⟨top, rooted, directory⟩ | missing
  · obtain ⟨sources, finds, sorted, member⟩ :=
      find_sources_selected grounded rooted directory (ignores top rooted)
    have apart := find_sources_apart grounded.toRegular (FileTree.Furnished.refl tree) finds
    refine ⟨sources, finds, apart.increasing sorted, ?_, ?_⟩
    · intro names bytes
      rw [member]
      constructor
      · rintro ⟨below, suits⟩
        exact ⟨⟨top, rooted, below⟩, suits⟩
      · rintro ⟨⟨other, located, below⟩, suits⟩
        cases rooted.symm.trans located
        exact ⟨below, suits⟩
    · rintro ⟨names, bytes⟩ listed
      obtain ⟨resolves, resolvesRoot⟩ :=
        FileTree.resolve_stands_below grounded whole rooted ((member names bytes).mp listed).1
      exact ⟨top ++ names, top, resolves, resolvesRoot, List.prefix_append top names⟩
  · refine ⟨[], find_sources_nowhere missing, .nil, ?_, by simp⟩
    intro names bytes
    constructor
    · intro listed
      cases listed
    · rintro ⟨⟨top, rooted, below⟩, _⟩
      have directory := FileTree.directory_of_stands_below grounded below
      exact absurd ((missing top rooted).symm.trans directory) (by decide)

/-- A root behind a link, with an ignore file, an output directory and a link to another directory. -/
def listedTree : FileTree where
  entries := [
    (["base"], .directory),
    (["base", "proj"], .directory),
    (["base", "proj", "Main.RPGLE"], .file []),
    (["base", "proj", "src"], .directory),
    (["base", "proj", "src", "sub.rpgleinc"], .file []),
    (["base", "proj", "src", "old.rpgle"], .file []),
    (["base", "proj", "out"], .directory),
    (["base", "proj", "out", "made.rpgle"], .file []),
    (["base", "proj", "lib"], .link "../shared"),
    (["base", "proj", ".gitignore"], .file (encodeUtf8 "old*\n")),
    (["base", "shared"], .directory),
    (["base", "shared", "far.rpgle"], .file []),
    (["home"], .link "base/proj")]

def listedRules : List IgnoreFile :=
  [⟨[], [⟨false, false, [.literal 'o', .literal 'l', .literal 'd'] ++ plainSigns "[^/]*$"⟩]⟩]

def listedIgnored (names : List String) : Bool := startsWith (names.getLast?.getD "") "old"

theorem listed_grounded : listedTree.Grounded :=
  ⟨⟨by decide +kernel, by decide +kernel⟩, by decide +kernel, by decide +kernel⟩

theorem listed_ignores (top : Place) (rooted : listedTree.locate ["home"] = .ok top) :
    listedTree.IgnoresBelow readIgnoreRules top { outputDir := "out" } none listedIgnored := by
  have here : listedTree.locate ["home"] = .ok ["base", "proj"] := by decide +kernel
  cases here.symm.trans rooted
  have listed : ignoreFilesBelow listedTree ["base", "proj"] false =
      [([], encodeUtf8 "old*\n")] := by
    unfold ignoreFilesBelow
    refine (congrArg (List.mergeSort · _) ?_).trans (List.mergeSort_singleton _)
    decide +kernel
  have decodes : decodeStrict? (encodeUtf8 "old*\n") = some "old*\n".toList := by decide +kernel
  have rules : rulesOfText (unifyNewlines "old*\n".toList) =
      .ok (listedRules.flatMap IgnoreFile.rules) := by decide +kernel
  have reads : readIgnoreRules (ignoreFilesBelow listedTree ["base", "proj"] false) =
      .ok fun names => ignoredBySome names listedRules := by
    simp only [readIgnoreRules, listed, readIgnoreFiles, decodes, rules, bind, Except.bind]
    rfl
  have decides : ∀ entry ∈ listedTree.below ["base", "proj"],
      Config.Considers { outputDir := "out" } none entry.1 →
        ignoredBySome entry.1 listedRules = .ok (listedIgnored entry.1) := by
    decide +kernel
  refine ⟨_, reads, fun names bytes below considered => decides (names, .file bytes) ?_ considered⟩
  exact (FileTree.mem_below_iff_stands listed_grounded).mpr below

theorem listed_sources_exactly :
    listedTree.Grounded ∧ (∀ entry ∈ listedTree.entries, hasNull entry.1 = false) ∧
      (∀ top, listedTree.locate ["home"] = .ok top →
        listedTree.IgnoresBelow readIgnoreRules top { outputDir := "out" } none listedIgnored) ∧
      ∃ sources, findSources listedTree ["home"] { outputDir := "out" } none = .ok sources ∧
        (sources.Pairwise fun one other => join "/" one.1 < join "/" other.1) ∧
        (["Main.RPGLE"], []) ∈ sources ∧ (["src", "sub.rpgleinc"], []) ∈ sources ∧
        ∀ bytes, (["src", "old.rpgle"], bytes) ∉ sources ∧ (["out", "made.rpgle"], bytes) ∉ sources ∧
          (["lib", "far.rpgle"], bytes) ∉ sources := by
  have whole : ∀ entry ∈ listedTree.entries, hasNull entry.1 = false := by decide +kernel
  obtain ⟨sources, finds, increasing, member, _⟩ :=
    sources_listed_exactly listed_grounded whole listed_ignores
  have rooted : listedTree.locate ["home"] = .ok ["base", "proj"] := by decide +kernel
  have below : ∀ {names : List String} {bytes : List UInt8}, names ≠ [] →
      listedTree.entry? (["base", "proj"] ++ names) = some (.file bytes) →
      ∃ top, listedTree.locate ["home"] = .ok top ∧ listedTree.StandsBelow top names (.file bytes) :=
    fun named found => ⟨_, rooted, FileTree.stands_below_of_entry listed_grounded named found⟩
  refine ⟨listed_grounded, whole, listed_ignores, sources, finds, increasing, ?_, ?_, fun bytes => ⟨?_, ?_, ?_⟩⟩
  · exact (member _ _).mpr ⟨below (by decide) (by decide +kernel), by decide +kernel⟩
  · exact (member _ _).mpr ⟨below (by decide) (by decide +kernel), by decide +kernel⟩
  · exact fun held => absurd ((member _ _).mp held).2 (by decide +kernel)
  · exact fun held => absurd ((member _ _).mp held).2 (by decide +kernel)
  · intro held
    obtain ⟨⟨top, located, stands⟩, _⟩ := (member _ _).mp held
    cases rooted.symm.trans located
    have nothing : listedTree.entry? ["base", "proj", "lib", "far.rpgle"] = none := by
      decide +kernel
    exact absurd (nothing.symm.trans stands.stands.2) (by simp)

end RpgSymbols
