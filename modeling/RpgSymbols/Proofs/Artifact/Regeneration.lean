import RpgSymbols.Proofs.Artifact.Aftermath
import RpgSymbols.Proofs.Files.Rescanning
import RpgSymbols.Proofs.Files.Unrolling

/-!
Generating once more. After a run that made its output directory, a second run makes no directory,
finds the same sources and builds the same models: at most it includes the artifact, which declares
nothing. So it writes the same bytes again, and the tree stays as it is.
-/

namespace RpgSymbols

open Text

/-! Settings and output directory. -/

/-- The settings of a run: those that are given, or those of the root. -/
def RunSettings (tree : FileTree) (root : List String) : Option Config → Config → Prop
  | some given, config => given = config
  | none, config => loadConfig tree root = .config config

/-- The output directory of a run: the one that is given, or the one of the settings. -/
def RunOutput (tree : FileTree) (root : List String) (config : Config) :
    Option (List String) → List String → Prop
  | some given, output => given = output
  | none, output => resolveOutputDir tree root config.outputDir = .ok (.ok output)

theorem generate_iff {tree : FileTree} {root : List String} {output : Option (List String)}
    {config : Option Config} {generated : Generated} :
    generate tree root output config = .ok generated ↔
      ∃ settings target, RunSettings tree root config settings ∧
        RunOutput tree root settings output target ∧
        generateIn tree root target settings = .ok generated := by
  -- With settings at hand, what remains is the output directory.
  have directed : ∀ settings, generate tree root output (some settings) = .ok generated ↔
      ∃ target, RunOutput tree root settings output target ∧
        generateIn tree root target settings = .ok generated := by
    intro settings
    cases output with
    | some given => simp [generate, RunOutput, bind, Except.bind]
    | none =>
        cases resolves : resolveOutputDir tree root settings.outputDir with
        | error reason => simp [generate, RunOutput, resolves, bind, Except.bind]
        | ok answer =>
            cases answer <;> simp [generate, RunOutput, resolves, bind, Except.bind]
  cases config with
  | some given =>
      rw [directed]
      simp [RunSettings]
  | none =>
      cases loads : loadConfig tree root with
      | config settings =>
          have loaded : generate tree root output none =
              generate tree root output (some settings) := by
            simp only [generate, loads]
          rw [loaded, directed]
          simp [RunSettings, loads]
      | refused error => simp [generate, RunSettings, loads, bind, Except.bind]
      | unread error => simp [generate, RunSettings, loads, bind, Except.bind]

theorem output_dir_free {tree : FileTree} {root output : List String}
    (free : ∀ name ∈ root, SlashFree name) {path : String}
    (resolves : resolveOutputDir tree root path = .ok (.ok output)) :
    ∀ name ∈ output, SlashFree name := by
  unfold resolveOutputDir at resolves
  split at resolves
  · cases resolves
  · split at resolves
    · cases resolves
    · simp only [bind_ok_iff] at resolves
      obtain ⟨top, rooted, place, arrives, answers⟩ := resolves
      split at answers
      · cases answers
        refine FileTree.resolve_free arrives ?_
        intro name listed
        rcases List.mem_append.mp listed with above | below
        · exact FileTree.resolve_free rooted free name above
        · exact slash_free_part (List.mem_of_mem_filter below)
      · cases answers

theorem output_dir_unlinked {one other : FileTree} (first : one.Linkless) (second : other.Linkless)
    (root : List String) (path : String) :
    resolveOutputDir one root path = resolveOutputDir other root path := by
  simp only [resolveOutputDir, FileTree.resolve_unlinked first.unlinked,
    FileTree.resolve_unlinked second.unlinked]

/-! Running. -/

theorem whole_output {tree : FileTree} {root output : List String} {config : Config}
    {generated : Generated} (returns : generateIn tree root output config = .ok generated) :
    hasNull output = false := by
  cases whole : hasNull output with
  | false => rfl
  | true =>
      simp only [generateIn, whole] at returns
      cases returns

/-- Generation whose steps succeed returns the sorted rows of the documents that were found. -/
theorem generate_of_steps {tree made : FileTree} {root output : List String} {config : Config}
    {skipped : String} {sources : List (List String × List UInt8)} (whole : hasNull output = false)
    (makes : tree.makeDirectories output.reverse = .ok made)
    (skips : relativeOutputDir made output root = .ok skipped)
    (finds : findSources made root config (some skipped) = .ok sources)
    (writes : ∀ bytes, ∃ written, made.write (output ++ [artifactName]) bytes = .ok written) :
    ∃ generated, generateIn tree root output config = .ok generated ∧
      generated.artifact = output ++ [artifactName] ∧
      made.write (output ++ [artifactName]) (SymbolRecord.encode generated.records) =
        .ok generated.tree ∧
      generated.records = SymbolRecord.sort ((freeDocuments sources).flatMap
        (rowsAlone (LocalSource.mk made root).toContentSource config.homeDirectory)) ∧
      generated.documents = (freeDocuments sources).length := by
  have gathered := gathered_all (LocalSource.mk made root).toContentSource config.homeDirectory
    sources
  have returns : ∀ written, made.write (output ++ [artifactName]) (SymbolRecord.encode
      (SymbolRecord.sort (gatherAll (LocalSource.mk made root).toContentSource config.homeDirectory
        sources).records)) = .ok written →
      ∃ events, generateIn tree root output config = .ok ⟨written, (freeDocuments sources).length,
        SymbolRecord.sort ((freeDocuments sources).flatMap
          (rowsAlone (LocalSource.mk made root).toContentSource config.homeDirectory)),
        output ++ [artifactName], events⟩ := by
    intro written wrote
    simp only [generateIn, whole, makes, skips, finds, wrote, bind, Except.bind, Bool.false_eq_true,
      if_false, ← gathered.documents, ← gathered.records]
    exact ⟨_, rfl⟩
  rw [gathered.records] at returns
  obtain ⟨written, wrote⟩ := writes (SymbolRecord.encode (SymbolRecord.sort
    ((freeDocuments sources).flatMap
      (rowsAlone (LocalSource.mk made root).toContentSource config.homeDirectory))))
  obtain ⟨events, returned⟩ := returns written wrote
  exact ⟨_, returned, rfl, wrote, rfl, rfl⟩

/-- The relative path of an output directory does not depend on what is in the tree. -/
theorem relative_output_dir_unlinked {one other : FileTree} (first : one.Linkless)
    (second : other.Linkless) (output root : List String) :
    relativeOutputDir one output root = relativeOutputDir other output root := by
  simp only [relativeOutputDir, FileTree.resolve_unlinked first.unlinked,
    FileTree.resolve_unlinked second.unlinked]

/-- With the settings and the output directory given, a second run changes nothing. -/
theorem generate_in_again {tree : FileTree} {root output : List String} {config : Config}
    {generated : Generated} (linkless : tree.Linkless) (free : ∀ name ∈ output, SlashFree name)
    (returns : generateIn tree root output config = .ok generated)
    (fresh : ∀ place, generated.tree.locate generated.artifact = .ok place →
      tree.entry? place.dropLast = none)
    (apart : generated.tree.CaseApart) :
    (∃ made directory, Produced tree output made directory generated) ∧
      ∃ again, generateIn generated.tree root output config = .ok again ∧
        again.tree = generated.tree ∧ again.artifact = generated.artifact ∧
        again.documents = generated.documents ∧ again.records = generated.records := by
  have whole := whole_output returns
  obtain ⟨made, skipped, sources, makes, skips, finds, named, writes, sorted, counted⟩ :=
    generate_steps returns
  rw [named] at writes fresh
  obtain ⟨directory, produced⟩ := produced_by_run linkless free whole makes writes fresh
  have gathered := gathered_all (LocalSource.mk made root).toContentSource config.homeDirectory
    sources
  rw [gathered.records] at sorted
  rw [gathered.documents] at counted
  obtain ⟨again, findsAgain, found⟩ : ∃ again,
      findSources generated.tree root config (some skipped) = .ok again ∧
        (again = sources ∨ sources = [] ∧
          ∀ source ∈ again, source.2 = SymbolRecord.encode generated.records) := by
    rw [produced.final]
    exact find_sources_again produced.absent produced.linkless produced.located produced.inside
      (by decide) produced.vacant skips finds
  obtain ⟨rows, count⟩ := produced.documents_again apart finds sorted found
  have skipsAgain := (relative_output_dir_unlinked produced.linkless_after produced.linkless
    output root).trans skips
  have located := FileTree.locate_grown produced.grown produced.located
  have inside := FileTree.directory_grown produced.grown produced.inside
  have there : generated.tree.isDirectory output = true :=
    FileTree.is_directory_iff.mpr ⟨whole, directory, located, inside⟩
  have makesAgain := FileTree.make_directories_again there
  have stands := produced.entry_after (directory ++ [artifactName])
  rw [if_pos rfl] at stands
  have writesAgain : ∀ bytes, generated.tree.write (output ++ [artifactName]) bytes =
      .ok (generated.tree.put (directory ++ [artifactName]) (.file bytes)) := by
    have file : ¬generated.tree.isDirectoryAt (directory ++ [artifactName]) = true := by
      rw [FileTree.isDirectoryAt, stands]
      simp
    intro bytes
    rw [FileTree.write_below produced.linkless_after located inside artifact_name_plain, if_neg file]
  obtain ⟨second, runs, path, wrote, sortedAgain, countedAgain⟩ :=
    generate_of_steps whole makesAgain skipsAgain findsAgain fun bytes => ⟨_, writesAgain bytes⟩
  have records : second.records = generated.records := by
    rw [sortedAgain, rows, sorted]
  refine ⟨⟨made, directory, produced⟩, second, runs, ?_, path.trans named.symm, ?_, records⟩
  · rw [writesAgain, records, FileTree.put_held produced.linkless_after (by simp) stands] at wrote
    exact (Except.ok.inj wrote).symm
  · rw [countedAgain, count, counted]

/-- Running once more changes nothing: in a tree without links, where the directory of the artifact
was not there before the first run and no two names of one directory differ in case alone after it,
a run with the same arguments returns, writes the same bytes to the same path, counts the same
documents and rows, and leaves the tree as it is. If the settings are the root's own, the root was
there before, or its path takes no steps up. -/
theorem second_run_changes_nothing {tree : FileTree} {root : List String}
    {output : Option (List String)} {config : Option Config} {generated : Generated}
    (linkless : tree.Linkless) (rootNames : ∀ name ∈ root, SlashFree name)
    (outputNames : ∀ names, output = some names → ∀ name ∈ names, SlashFree name)
    (configured : config = none → tree.leadsSomewhere root = true ∨ FileTree.PlainPlace root)
    (returns : generate tree root output config = .ok generated)
    (fresh : ∀ place, generated.tree.locate generated.artifact = .ok place →
      tree.entry? place.dropLast = none)
    (apart : generated.tree.CaseApart) :
    generated.tree.read generated.artifact = .ok (SymbolRecord.encode generated.records) ∧
    ∃ again, generate generated.tree root output config = .ok again ∧
      again.tree = generated.tree ∧ again.artifact = generated.artifact ∧
      again.documents = generated.documents ∧ again.records = generated.records ∧
      again.tree.read again.artifact = .ok (SymbolRecord.encode generated.records) := by
  obtain ⟨settings, target, settles, directs, runs⟩ := generate_iff.mp returns
  have free : ∀ name ∈ target, SlashFree name := by
    cases output with
    | some given => exact directs ▸ outputNames given rfl
    | none => exact output_dir_free rootNames directs
  obtain ⟨⟨made, directory, produced⟩, again, runsAgain, sameTree, samePath, sameCount, sameRows⟩ :=
    generate_in_again linkless free runs fresh apart
  have settlesAgain : RunSettings generated.tree root config settings := by
    cases config with
    | some given => exact settles
    | none => exact (produced.settings_again linkless (configured rfl)).trans settles
  have directsAgain : RunOutput generated.tree root settings output target := by
    cases output with
    | some given => exact directs
    | none =>
        exact (output_dir_unlinked produced.linkless_after linkless root settings.outputDir).trans
          directs
  have reads : generated.tree.read generated.artifact =
      .ok (SymbolRecord.encode generated.records) := by
    obtain ⟨_, _, _, _, _, _, _, writes, _⟩ := generate_steps runs
    exact FileTree.read_write writes
  refine ⟨reads, again, generate_iff.mpr ⟨settings, target, settlesAgain, directsAgain, runsAgain⟩,
    sameTree, samePath, sameCount, sameRows, ?_⟩
  rw [sameTree, samePath]
  exact reads

deriving instance DecidableEq for Loaded

def includingSource : List String × List UInt8 :=
  (["main.rpgle"], encodeUtf8 "**free\n/copy .rpglemap/symbols.jsonl\ndcl-c one 1;\n")

/-- By its settings the artifact is a source as well, as far as its name goes. -/
def includingTree : FileTree where
  entries := [
    (["proj"], .directory),
    ("proj" :: includingSource.1, .file includingSource.2),
    (["proj", configFileName], .file (encodeUtf8 "extensions = [\".rpgle\", \".jsonl\"]\n"))]

def includingSettings : Config := { extensions := [".rpgle", ".jsonl"] }

def includingMade : FileTree := includingTree.put ["proj", ".rpglemap"] .directory

def includingWritten (bytes : List UInt8) : FileTree :=
  includingMade.put ["proj", ".rpglemap", artifactName] (.file bytes)

theorem including_sources_found :
    findSources includingMade ["proj"] includingSettings (some ".rpglemap") =
      .ok [includingSource] := by
  have located : includingMade.locate ["proj"] = .ok ["proj"] := by decide +kernel
  have directory : includingMade.isDirectoryAt ["proj"] = true := by decide +kernel
  have unignored : ignoreFilesBelow includingMade ["proj"] false = [] :=
    no_ignore_files (by decide +kernel)
  have selected : selectSources ⟨includingSettings.extensions.map caseFold,
      skippedNames ".rpglemap", [], [], fun _ => .ok false⟩ (includingMade.below ["proj"]) =
        .ok [includingSource] := by decide +kernel
  exact find_sources_ordered located directory unignored selected (List.pairwise_singleton _ _)

theorem including_run_repeated :
    includingTree.Linkless ∧ ∃ generated, generate includingTree ["proj"] none none = .ok generated ∧
      generated.documents = 1 ∧ generated.tree.CaseApart ∧
      generated.tree.read generated.artifact = .ok (SymbolRecord.encode generated.records) ∧
      ∃ again, generate generated.tree ["proj"] none none = .ok again ∧
        again.tree = generated.tree ∧ again.artifact = generated.artifact ∧
        again.documents = generated.documents ∧ again.records = generated.records ∧
        again.tree.read again.artifact = .ok (SymbolRecord.encode generated.records) := by
  have grounded : includingTree.Grounded :=
    ⟨⟨by decide +kernel, by decide +kernel⟩, by decide +kernel, by decide +kernel⟩
  have linkless : includingTree.Linkless := ⟨grounded, by decide +kernel, by simp [includingTree]⟩
  have loads : loadConfig includingTree ["proj"] = .config includingSettings := by decide +kernel
  have directs : resolveOutputDir includingTree ["proj"] ".rpglemap" =
      .ok (.ok ["proj", ".rpglemap"]) := by decide +kernel
  have makes : includingTree.makeDirectories [".rpglemap", "proj"] = .ok includingMade := rfl
  have skips : relativeOutputDir includingMade ["proj", ".rpglemap"] ["proj"] = .ok ".rpglemap" := by
    decide +kernel
  have writes : ∀ bytes, includingMade.write ["proj", ".rpglemap", artifactName] bytes =
      .ok (includingWritten bytes) := fun _ => rfl
  obtain ⟨generated, runs, path, wrote, _, counted⟩ :=
    generate_of_steps (by decide) makes skips including_sources_found fun bytes => ⟨_, writes bytes⟩
  have final : includingWritten (SymbolRecord.encode generated.records) = generated.tree :=
    Except.ok.inj ((writes _).symm.trans wrote)
  have one : (freeDocuments [includingSource]).length = 1 := by decide +kernel
  have apart : generated.tree.CaseApart := by
    have places : ∀ bytes, (includingWritten bytes).entries.map Prod.fst =
        (includingWritten []).entries.map Prod.fst := fun _ => rfl
    apply FileTree.case_apart_of_places
    rw [← final, places]
    decide +kernel
  have fresh : ∀ place, generated.tree.locate generated.artifact = .ok place →
      includingTree.entry? place.dropLast = none := by
    have there : ∀ bytes, (includingWritten bytes).locate ["proj", ".rpglemap", artifactName] =
        .ok ["proj", ".rpglemap", artifactName] := fun _ => rfl
    intro place locates
    rw [path, ← final] at locates
    cases (there _).symm.trans locates
    decide +kernel
  have returns : generate includingTree ["proj"] none none = .ok generated :=
    generate_iff.mpr ⟨includingSettings, _, loads, directs, runs⟩
  exact ⟨linkless, generated, returns, counted.trans one, apart,
    second_run_changes_nothing linkless (by decide) (by simp) (fun _ => .inr (by decide)) returns
      fresh apart⟩

def detourSource : List String × List UInt8 :=
  (["main.rpgle"], encodeUtf8 "**free\ndcl-c one 1;\n")

def detourTree : FileTree where
  entries := [
    (["proj"], .directory),
    ("proj" :: detourSource.1, .file detourSource.2),
    (["proj", configFileName], .file (encodeUtf8 "extensions = [\".txt\"]\n"))]

/-- A path to the root through a directory that only a run makes. -/
def detour : List String := ["new", "..", "proj"]

def detourMade : FileTree := detourTree.put ["new"] .directory

def detourWritten (bytes : List UInt8) : FileTree :=
  detourMade.put ["new", artifactName] (.file bytes)

theorem detour_first_sources :
    findSources detourMade detour {} (some "") = .ok [detourSource] := by
  have located : detourMade.locate detour = .ok ["proj"] := by decide +kernel
  have directory : detourMade.isDirectoryAt ["proj"] = true := by decide +kernel
  have unignored : ignoreFilesBelow detourMade ["proj"] false = [] :=
    no_ignore_files (by decide +kernel)
  have selected : selectSources
      ⟨({} : Config).extensions.map caseFold, skippedNames "", [], [], fun _ => .ok false⟩
      (detourMade.below ["proj"]) = .ok [detourSource] := by decide +kernel
  exact find_sources_ordered located directory unignored selected (List.pairwise_singleton _ _)

theorem detour_second_sources (bytes : List UInt8) :
    findSources (detourWritten bytes) detour { extensions := [".txt"] } (some "") = .ok [] := by
  have located : (detourWritten bytes).locate detour = .ok ["proj"] := rfl
  have directory : (detourWritten bytes).isDirectoryAt ["proj"] = true := rfl
  have below : (detourWritten bytes).below ["proj"] = detourMade.below ["proj"] := rfl
  have unignored : ignoreFilesBelow (detourWritten bytes) ["proj"] false = [] :=
    no_ignore_files (by rw [below]; decide +kernel)
  have selected : selectSources ⟨[".txt"].map caseFold, skippedNames "", [], [], fun _ => .ok false⟩
      (detourMade.below ["proj"]) = .ok [] := by decide +kernel
  exact find_sources_ordered located directory unignored (below ▸ selected) .nil

/-- The first run does not find the settings, because the path of the root leads nowhere yet. The
second one does, and with them it finds no source. -/
theorem detour_run_not_repeated :
    detourTree.Linkless ∧ detourTree.entry? ["new"] = none ∧ ∃ first second,
      generate detourTree detour (some ["new"]) none = .ok first ∧ first.tree.CaseApart ∧
      generate first.tree detour (some ["new"]) none = .ok second ∧
      first.documents = 1 ∧ first.records.length = 1 ∧
      second.documents = 0 ∧ second.records = [] := by
  have grounded : detourTree.Grounded :=
    ⟨⟨by decide +kernel, by decide +kernel⟩, by decide +kernel, by decide +kernel⟩
  have linkless : detourTree.Linkless := ⟨grounded, by decide +kernel, by simp [detourTree]⟩
  have loads : loadConfig detourTree detour = .config {} := by decide +kernel
  have makes : detourTree.makeDirectories ["new"] = .ok detourMade := rfl
  have skips : relativeOutputDir detourMade ["new"] detour = .ok "" := by decide +kernel
  have writes : ∀ bytes, detourMade.write ["new", artifactName] bytes = .ok (detourWritten bytes) :=
    fun _ => rfl
  obtain ⟨first, runs, _, wrote, sorted, counted⟩ :=
    generate_of_steps (by decide) makes skips detour_first_sources fun bytes => ⟨_, writes bytes⟩
  have final : detourWritten (SymbolRecord.encode first.records) = first.tree :=
    Except.ok.inj ((writes _).symm.trans wrote)
  have documents : (freeDocuments [detourSource]).length = 1 := by decide +kernel
  have rows : first.records.length = 1 := by
    rw [sorted, SymbolRecord.sort, List.length_mergeSort]
    decide +kernel
  have apart : first.tree.CaseApart := by
    have places : ∀ bytes, (detourWritten bytes).entries.map Prod.fst =
        (detourWritten []).entries.map Prod.fst := fun _ => rfl
    apply FileTree.case_apart_of_places
    rw [← final, places]
    decide +kernel
  have loadsAgain : ∀ bytes, loadConfig (detourWritten bytes) detour =
      .config { extensions := [".txt"] } := by
    intro bytes
    have found : (detourWritten bytes).find? (detour ++ [configFileName]) =
        some (.file (encodeUtf8 "extensions = [\".txt\"]\n")) := rfl
    have read : configOfBytes (Place.text (detour ++ [configFileName]))
        (encodeUtf8 "extensions = [\".txt\"]\n") = .config { extensions := [".txt"] } := by
      decide +kernel
    simp only [loadConfig, found, read]
  have makesAgain : ∀ bytes, (detourWritten bytes).makeDirectories ["new"] =
      .ok (detourWritten bytes) := fun _ => rfl
  have skipsAgain : ∀ bytes, relativeOutputDir (detourWritten bytes) ["new"] detour = .ok "" :=
    fun _ => rfl
  obtain ⟨second, runsAgain, _, _, sortedAgain, countedAgain⟩ :=
    generate_of_steps (by decide) (makesAgain _) (skipsAgain _)
      (detour_second_sources (SymbolRecord.encode first.records)) fun _ => ⟨_, rfl⟩
  rw [final] at runsAgain
  have nothing : freeDocuments [] = [] := rfl
  rw [nothing] at sortedAgain countedAgain
  refine ⟨linkless, by decide, first, second, generate_iff.mpr ⟨_, _, loads, rfl, runs⟩, apart,
    generate_iff.mpr ⟨_, _, final ▸ loadsAgain _, rfl, runsAgain⟩, counted.trans documents, rows,
    countedAgain, ?_⟩
  rw [sortedAgain, List.flatMap_nil]
  exact List.mergeSort_of_pairwise .nil

end RpgSymbols
