import RpgSymbols.Command.Run
import RpgSymbols.Proofs.Artifact.Regeneration
import RpgSymbols.Proofs.Files.View

/-!
The two commands agree. One builds the model of a single document in a new session, the other
gathers the rows of all documents with a shared cache and after its output directory was made. A
model depends on the tree only through the stream files that are served, so while nothing that is
seen from the root changes, the printed model of a document has exactly the rows of the artifact.
-/

namespace RpgSymbols.Command

open Text

section Model

variable {one other : ContentSource}

theorem model_of_served
    (alike : ∀ path text, one.serve (.stream path) = .ok text ↔ other.serve (.stream path) = .ok text)
    (cache : ContentCache) (path text : String) :
    (buildModel one cache ⟨Addressing.streamFile.name, path⟩ text).model =
      (buildModel other cache ⟨Addressing.streamFile.name, path⟩ text).model :=
  model_of_streams (fun path text => (alike path text).mp)
    (fun path text serves => .inl ((alike path text).mpr serves)) cache path text

theorem rows_of_served
    (alike : ∀ path text, one.serve (.stream path) = .ok text ↔ other.serve (.stream path) = .ok text)
    (home : String) (document : String × String) :
    rowsAlone one home document = rowsAlone other home document := by
  rw [rowsAlone, rowsAlone, model_of_served alike]

end Model

/-- The rows of all documents hold those of each document apart. -/
theorem rows_of_document {source : ContentSource} {home : String} {document : String × String}
    {documents : List (String × String)} (listed : document ∈ documents)
    (distinct : documents.Pairwise fun one other => one.1 ≠ other.1) :
    (documents.flatMap (rowsAlone source home)).filter (fun row => row.document = document.1) =
      rowsAlone source home document := by
  have others : ∀ other : String × String, other.1 ≠ document.1 →
      (rowsAlone source home other).filter (fun row => row.document = document.1) = [] := by
    intro other differs
    rw [List.filter_eq_nil_iff]
    intro row held same
    exact differs ((document_of_row held).symm.trans (by simpa using same))
  have own : (rowsAlone source home document).filter (fun row => row.document = document.1) =
      rowsAlone source home document := by
    rw [List.filter_eq_self]
    intro row held
    simpa using document_of_row held
  induction documents with
  | nil => cases listed
  | cons first rest induction =>
      obtain ⟨differs, later⟩ := List.pairwise_cons.mp distinct
      rw [List.flatMap_cons, List.filter_append]
      rcases List.mem_cons.mp listed with rfl | listed
      · have nothing : (rest.flatMap (rowsAlone source home)).filter
            (fun row => row.document = document.1) = [] := by
          rw [List.filter_flatMap, List.flatMap_eq_nil_iff]
          exact fun other held => others other (differs other held).symm
        rw [own, nothing, List.append_nil]
      · rw [others first (differs document listed), List.nil_append]
        exact induction listed later

section Steps

variable {environment : Environment}

/-- The output directory of a command: the one that is given, or the one of the settings. -/
def DirectedTo (environment : Environment) (top : Place) (config : Config) :
    Option Given → List String → Prop
  | some given, target => environment.givenPlace given = .ok target
  | none, target => resolveOutputDir environment.tree top config.outputDir = .ok (.ok target)

section Running

variable {verbose : Bool} {root : String} {output : Option Given} {finished : Finished}
  (runs : runGenerate environment verbose root output = .ok finished) (succeeds : finished.exit = 0)
include runs succeeds

theorem generated_of_run : ∃ top chosen generated, environment.place root = .ok top ∧
    (output.elim (.ok none) fun given => (environment.givenPlace given).map some) = .ok chosen ∧
    RpgSymbols.generate environment.tree top chosen none = .ok generated ∧
    finished.tree = generated.tree := by
  obtain ⟨top, rooted, runs⟩ := bind_ok_iff.mp runs
  cases output
  all_goals
    obtain ⟨chosen, directed, runs⟩ := bind_ok_iff.mp runs
    dsimp only at runs
    cases generates : RpgSymbols.generate environment.tree top chosen none with
    | error reason =>
        rw [generates] at runs
        cases reason <;> cases runs <;> cases succeeds
    | ok generated =>
        rw [generates] at runs
        cases runs
        exact ⟨top, chosen, generated, rooted, directed, generates, rfl⟩

/-- A run that writes an artifact loads the settings of its root and generates. -/
theorem generate_of_run :
    ∃ top target config generated, environment.place root = .ok top ∧
      DirectedTo environment top config output target ∧
      loadConfig environment.tree top = .config config ∧
      generateIn environment.tree top target config = .ok generated ∧
      finished.tree = generated.tree := by
  obtain ⟨top, chosen, generated, rooted, directed, generates, final⟩ :=
    generated_of_run runs succeeds
  obtain ⟨config, target, loads, leads, steps⟩ := generate_iff.mp generates
  refine ⟨top, target, config, generated, rooted, ?_, loads, steps, final⟩
  cases output with
  | none =>
      cases directed
      exact leads
  | some given =>
      simp only [Option.elim_some] at directed
      cases placed : environment.givenPlace given with
      | error failure =>
          rw [placed] at directed
          cases directed
      | ok place =>
          rw [placed] at directed
          cases directed
          exact placed.trans (congrArg Except.ok leads)

end Running

/-- A run whose steps succeed writes the artifact. -/
theorem run_of_steps {root : String} {output : Given} {top target : Place} {config : Config}
    {made written : FileTree} {skipped : String} {sources : List (List String × List UInt8)}
    (rooted : environment.place root = .ok top) (directed : environment.givenPlace output = .ok target)
    (loads : loadConfig environment.tree top = .config config) (whole : hasNull target = false)
    (makes : environment.tree.makeDirectories target.reverse = .ok made)
    (skips : relativeOutputDir made target top = .ok skipped)
    (finds : findSources made top config (some skipped) = .ok sources) (verbose : Bool) :
    let gathered := gatherAll (LocalSource.mk made top).toContentSource config.homeDirectory sources
    made.write (target ++ [artifactName])
        (SymbolRecord.encode (SymbolRecord.sort gathered.records)) = .ok written →
      runGenerate environment verbose root (some output) = .ok {
        exit := 0
        messages := noticeText verbose gathered.events
        tree := written } := by
  intro gathered writes
  simp only [runGenerate, rooted, directed, Except.map, RpgSymbols.generate, loads, generateIn, whole,
    makes, skips, finds, gathered, writes, bind, Except.bind, Bool.false_eq_true, if_false]
  rfl

/-- The command prints the model that a session without any history builds. -/
theorem symbols_of_run {top place : Place} {config : Config} {bytes : List UInt8}
    {file : String} {root : Given} (rooted : environment.givenPlace root = .ok top)
    (placed : environment.place file = .ok place)
    (loads : loadConfig environment.tree top = .config config)
    (reads : environment.tree.read place = .ok bytes) (verbose : Bool) (scheme : String) :
    let built := buildModel (LocalSource.mk environment.tree top).toContentSource
      { home := config.homeDirectory } ⟨scheme, documentPath place top none⟩ (readTextReplacing bytes)
    runSymbols environment verbose file root none scheme none = .ok {
      exit := 0
      output := built.model.printed ++ "\n"
      messages := noticeText verbose built.events
      tree := environment.tree } := by
  simp only [runSymbols, rooted, placed, loads, reads, bind, Except.bind]
  rfl

end Steps

section Sources

variable {tree made : FileTree} {top : Place}

/-- A source is read from the tree as it was before directories were made. -/
theorem source_read (grounded : tree.Grounded) (furnished : FileTree.Furnished tree made)
    (alike : FileTree.LooksAlike top tree made) {config : Config} {skipped : Option String}
    {sources : List (List String × List UInt8)}
    (finds : findSources made top config skipped = .ok sources)
    {source : List String × List UInt8} (listed : source ∈ sources) :
    tree.read (top ++ source.1) = .ok source.2 ∧ FileTree.PlainPlace source.1 := by
  obtain ⟨place, selected, located, order, sublist⟩ := find_sources_among finds
  have rooted : tree.locate top = .ok place := by
    have same := alike [] FileTree.plain_top
    rw [List.append_nil] at same
    rw [FileTree.located_iff_seen, same, ← FileTree.located_iff_seen]
    exact located (List.ne_nil_of_mem listed)
  have below : (source.1, Entry.file source.2) ∈ made.below place :=
    sublist.subset (List.mem_map_of_mem (order.mem_iff.mp listed))
  obtain ⟨named, held⟩ := mem_below_iff.mp below
  obtain ⟨more, extended, directories⟩ := furnished.added
  have before : (place ++ source.1, Entry.file source.2) ∈ tree.entries := by
    rw [extended] at held
    rcases List.mem_append.mp held with before | added
    · exact before
    · cases directories _ added
  have located := FileTree.locate_listed grounded rooted before (by simp)
  have found := FileTree.entry_of_listed grounded (by simp [named]) before
  refine ⟨FileTree.read_iff.mpr ⟨_, located, found⟩, ?_⟩
  exact fun name inside => grounded.plain _ before name (List.mem_append_right _ inside)

theorem config_of_alike {other : FileTree} (alike : FileTree.LooksAlike top tree other) :
    loadConfig other top = loadConfig tree top := by
  have plain : FileTree.PlainPlace [configFileName] := by
    intro name listed
    rw [List.mem_singleton.mp listed]
    exact ⟨by decide, by decide, by decide⟩
  rw [loadConfig, loadConfig, FileTree.find_eq_seen, FileTree.find_eq_seen, alike _ plain]

theorem document_path_below {names : List String} (named : names ≠ []) :
    documentPath (top ++ names) top none = Place.text names := by
  simp [documentPath, Place.text, named]

end Sources

/-- If nothing that is seen from the root is changed by a run that writes an artifact, be it to a
given directory or to the one of the settings, then for every free-format source of the run the model
that is printed, before or after it and however the file is spelled, has exactly the rows of the
artifact for the source's path. -/
theorem printed_models_have_artifact_rows {environment : Environment} {verbose : Bool}
    {root : String} {output : Option Given} {finished : Finished} {top : Place}
    (grounded : environment.tree.Grounded)
    (runs : runGenerate environment verbose root output = .ok finished)
    (succeeds : finished.exit = 0) (rooted : environment.place root = .ok top)
    (unchanged : FileTree.LooksAlike top environment.tree finished.tree) :
    ∃ target config made skipped sources records,
      DirectedTo environment top config output target ∧
      loadConfig environment.tree top = .config config ∧
      environment.tree.makeDirectories target.reverse = .ok made ∧
      relativeOutputDir made target top = .ok skipped ∧
      findSources made top config (some skipped) = .ok sources ∧
      finished.tree.read (target ++ [artifactName]) = .ok (SymbolRecord.encode records) ∧
      ∀ source ∈ sources, isFreeFormat (readTextReplacing source.2) = true →
        ∀ (scene : Environment) (loud : Bool) (file : String) (base : Given),
          (scene.tree = environment.tree ∨ scene.tree = finished.tree) →
          scene.givenPlace base = .ok top → scene.place file = .ok (top ++ source.1) →
            ∃ (model : Model) (messages : String),
              runSymbols scene loud file base none Addressing.streamFile.name none = .ok {
                exit := 0
                output := model.printed ++ "\n"
                messages := messages
                tree := scene.tree } ∧
              (model.declarations.map (SymbolRecord.ofDeclaration (Place.text source.1))).Perm
                (records.filter fun row => row.document = Place.text source.1) := by
  obtain ⟨top', target, config, generated, rooted', directed, loads, generates, final⟩ :=
    generate_of_run runs succeeds
  cases rooted.symm.trans rooted'
  obtain ⟨made, skipped, sources, makes, skips, finds, named, writes, sorted, _⟩ :=
    generate_steps generates
  have furnished := FileTree.make_directories_furnishes makes
  have between : FileTree.LooksAlike top environment.tree made := by
    rw [final] at unchanged
    exact FileTree.alike_between furnished (FileTree.write_grows writes) unchanged
  have apart := find_sources_apart grounded.toRegular furnished finds
  have gathered := gathered_all (LocalSource.mk made top).toContentSource config.homeDirectory
    sources
  refine ⟨target, config, made, skipped, sources, generated.records, directed, loads, makes, skips,
    finds, ?_, ?_⟩
  · rw [final, ← named]
    exact FileTree.read_write writes
  · intro source listed free scene loud file base moment based placed
    have alike : FileTree.LooksAlike top environment.tree scene.tree := by
      rcases moment with before | after
      · rw [before]
        exact fun _ _ => rfl
      · rw [after]
        exact unchanged
    obtain ⟨reads, plain⟩ := source_read grounded furnished between finds listed
    have readsHere : scene.tree.read (top ++ source.1) = .ok source.2 := by
      rwa [FileTree.read_iff_seen, ← alike source.1 plain, ← FileTree.read_iff_seen]
    have loadsHere := (config_of_alike alike).trans loads
    have prints := symbols_of_run based placed loadsHere readsHere loud Addressing.streamFile.name
    rw [document_path_below (apart.named source listed)] at prints
    refine ⟨_, _, prints, ?_⟩
    have document : (Place.text source.1, readTextReplacing source.2) ∈ freeDocuments sources :=
      List.mem_filterMap.mpr ⟨source, listed, by simp [free]⟩
    have served : ∀ path text,
        (LocalSource.mk scene.tree top).toContentSource.serve (.stream path) = .ok text ↔
          (LocalSource.mk made top).toContentSource.serve (.stream path) = .ok text :=
      fun path text => (LocalSource.serve_stream_alike alike grounded).symm.trans
        (LocalSource.serve_stream_alike between grounded)
    have own : (gatherAll (LocalSource.mk made top).toContentSource config.homeDirectory
        sources).records.filter (fun row => row.document = Place.text source.1) =
          rowsAlone (LocalSource.mk scene.tree top).toContentSource config.homeDirectory
            (Place.text source.1, readTextReplacing source.2) := by
      rw [gathered.records, rows_of_served served]
      exact rows_of_document document (free_documents_distinct apart)
    rw [rowsAlone] at own
    rw [sorted, ← own]
    exact ((List.mergeSort_perm _ _).filter _).symm

def siblingSource : List String × List UInt8 :=
  (["main.rpgle"], encodeUtf8 "**free\n/copy shared.inc\ndcl-c own 1;\n")

def siblingEnvironment : Environment where
  tree := ⟨[
    (["proj"], .directory),
    ("proj" :: siblingSource.1, .file siblingSource.2),
    (["proj", "shared.inc"], .file (encodeUtf8 "dcl-c shared 2;\n"))]⟩
  current := []
  homeOf := fun _ => none

def siblingMade : FileTree := siblingEnvironment.tree.put ["out"] .directory

theorem sibling_grounded : siblingEnvironment.tree.Grounded :=
  ⟨⟨by decide +kernel, by decide +kernel⟩, by decide +kernel, by decide +kernel⟩

theorem sibling_models_have_artifact_rows :
    siblingEnvironment.tree.Grounded ∧ ∃ finished records,
      runGenerate siblingEnvironment false "proj" (some (.text "out")) = .ok finished ∧
      finished.exit = 0 ∧ siblingEnvironment.place "proj" = .ok ["proj"] ∧
      FileTree.LooksAlike ["proj"] siblingEnvironment.tree finished.tree ∧
      finished.tree.read ["out", artifactName] = .ok (SymbolRecord.encode records) ∧
      ∃ (model : Model) (messages : String),
        runSymbols siblingEnvironment false "proj/main.rpgle" (.text "proj") none
            Addressing.streamFile.name none = .ok {
          exit := 0
          output := model.printed ++ "\n"
          messages := messages
          tree := siblingEnvironment.tree } ∧
        (model.declarations.map (SymbolRecord.ofDeclaration "/main.rpgle")).Perm
          (records.filter fun row => row.document = "/main.rpgle") := by
  have rooted : siblingEnvironment.place "proj" = .ok ["proj"] := by decide +kernel
  have directed : siblingEnvironment.givenPlace (.text "out") = .ok ["out"] := by decide +kernel
  have loads : loadConfig siblingEnvironment.tree ["proj"] = .config {} := rfl
  have makes : siblingEnvironment.tree.makeDirectories ["out"] = .ok siblingMade := rfl
  have skips : relativeOutputDir siblingMade ["out"] ["proj"] = .ok "" := by decide +kernel
  have located : siblingMade.locate ["proj"] = .ok ["proj"] := by decide +kernel
  have unignored : ignoreFilesBelow siblingMade ["proj"] false = [] := by
    rw [ignoreFilesBelow]
    exact List.mergeSort_of_pairwise .nil
  have selected : selectSources
      ⟨[".rpgle", ".sqlrpgle", ".rpgleinc"].map caseFold, skippedNames "", [], [],
        fun _ => .ok false⟩
      (siblingMade.below ["proj"]) = .ok [siblingSource] := by decide +kernel
  have finds : findSources siblingMade ["proj"] {} (some "") = .ok [siblingSource] :=
    find_sources_ordered located (by decide +kernel) unignored selected (List.pairwise_singleton _ _)
  have writes : ∀ bytes, siblingMade.write ["out", artifactName] bytes =
      .ok ⟨siblingMade.entries ++ [(["out", artifactName], .file bytes)]⟩ := fun bytes => rfl
  have runs := run_of_steps rooted directed loads (by decide +kernel) makes skips finds false (writes _)
  have view : ∀ bytes, FileTree.LooksAlike ["proj"] siblingEnvironment.tree
      ⟨siblingMade.entries ++ [(["out", artifactName], .file bytes)]⟩ := by
    intro bytes
    have extended : siblingMade.entries ++ [(["out", artifactName], Entry.file bytes)] =
        siblingEnvironment.tree.entries ++
          [(["out"], .directory), (["out", artifactName], .file bytes)] := rfl
    have outside : ∀ entry ∈ [(["out"], Entry.directory), (["out", artifactName], .file bytes)],
        ¬ ["proj"] <+: entry.1 := by
      simp
    have unlinked : ∀ entry ∈ siblingMade.entries ++ [(["out", artifactName], Entry.file bytes)],
        ∀ target, entry.2 ≠ .link target := by
      rw [extended]
      simp [siblingEnvironment]
    exact FileTree.alike_outside extended outside unlinked (by decide +kernel)
  obtain ⟨target, config, made, skipped, sources, records, directed', loads', makes', skips', finds',
    reads, agree⟩ := printed_models_have_artifact_rows sibling_grounded runs rfl rooted (view _)
  change siblingEnvironment.givenPlace (.text "out") = .ok target at directed'
  cases directed.symm.trans directed'
  cases loads.symm.trans loads'
  cases makes.symm.trans makes'
  cases skips.symm.trans skips'
  cases finds.symm.trans finds'
  have free : isFreeFormat (readTextReplacing siblingSource.2) = true := by decide +kernel
  have placed : siblingEnvironment.place "proj/main.rpgle" = .ok (["proj"] ++ siblingSource.1) := by
    decide +kernel
  exact ⟨sibling_grounded, _, records, runs, rfl, rooted, view _, reads,
    agree siblingSource (List.mem_singleton_self _) free siblingEnvironment false "proj/main.rpgle"
      (.text "proj") (.inl rfl) rooted placed⟩

/-- A source that includes two files. Beside each stands a link whose name is the file's in upper
case; one leads to the output directory and the other to the artifact. -/
def shadowedText : String := "**free\n/copy ÿ\n/copy µ\ndcl-c own 0;\n"

def shadowedEnvironment : Environment where
  tree := ⟨[
    (["proj"], .directory),
    (["proj", "main.rpgle"], .file (encodeUtf8 shadowedText)),
    (["proj", "µ"], .file (encodeUtf8 "dcl-c far 1;\n")),
    (["proj", "ÿ"], .file (encodeUtf8 "dcl-c near 2;\n")),
    (["proj", "Ÿ"], .link "../out"),
    (["proj", "Μ"], .link "../out/symbols.jsonl")]⟩
  current := []
  homeOf := fun _ => none

def shadowedMade : FileTree := shadowedEnvironment.tree.put ["out"] .directory

section Shadowed

/-- What the source declares, given what is served for the two links' names. -/
theorem shadowed_model {source : ContentSource} {near far : Option (List String)}
    (nearServed : source.served? ⟨"/Ÿ", .streamFile, none⟩ = near)
    (farServed : source.served? ⟨"/Μ", .streamFile, none⟩ = far) :
    (buildModel source { home := "/" } ⟨Addressing.streamFile.name, "/main.rpgle"⟩
        shadowedText).model =
      assemble (("/main.rpgle", lines shadowedText) ::
        ((far.map fun found => ("/Μ", found)).toList ++
          (near.map fun found => ("/Ÿ", found)).toList)) := by
  have addresses : includedAddresses { home := "/" } ⟨Addressing.streamFile.name, "/main.rpgle"⟩
      (includeTargets (lines shadowedText)) =
      [⟨"/Μ", .streamFile, none⟩, ⟨"/Ÿ", .streamFile, none⟩] := by decide +kernel
  have empty : ∀ path, ContentCache.get? { home := "/" } path = none := fun path => rfl
  rw [build_model_included, includedFiles, addresses]
  cases far <;> cases near <;>
    simp [ContentCache.available?, empty, nearServed, farServed]

/-- A name that is there in another case only is served from the first such name. -/
theorem served_in_other_case {source : LocalSource} {resolved : Resolved} {name other text : String}
    (stream : resolved.request = .ok (.stream resolved.canonicalPath))
    (named : LocalSource.streamNames resolved.canonicalPath = [name])
    (moves : ¬ (name = "." || name = ".." || !source.tree.isDirectory source.root) = true)
    (absent : source.tree.leadsSomewhere (joinNames source.root name) = false)
    (first : ((source.listing source.root).find? fun entry => upper entry = upper name) = some other)
    (held : source.TextWithin (source.root ++ [other]) text) :
    source.toContentSource.served? resolved = some (lines text) := by
  have child : source.child? source.root name = some (source.root ++ [other]) := by
    simp [LocalSource.child?, absent, first]
  have descends : source.descend source.root [name] = some (source.root ++ [other]) := by
    rw [LocalSource.descend, if_neg moves, child]
    rfl
  have serves : source.serveStream resolved.canonicalPath = .ok text :=
    LocalSource.serve_stream_iff.mpr ⟨_, named ▸ descends, held⟩
  simp only [ContentSource.served?, stream, LocalSource.toContentSource, serves]

/-- One of the files is served while the link in upper case leads nowhere. -/
theorem shadowed_served {tree : FileTree} {path name other text : String}
    (located : tree.locate ["proj"] = .ok ["proj"])
    (listed : (tree.entries.filterMap fun entry =>
      if entry.1.dropLast == ["proj"] then entry.1.getLast? else none) =
        ["main.rpgle", "µ", "ÿ", "Ÿ", "Μ"])
    (named : LocalSource.streamNames path = [name])
    (moves : ¬ (name = "." || name = ".." || !tree.isDirectory ["proj"]) = true)
    (absent : tree.leadsSomewhere (joinNames ["proj"] name) = false)
    (first : (["main.rpgle", "µ", "ÿ", "Ÿ", "Μ"].find? fun entry => upper entry = upper name) =
      some other)
    (held : LocalSource.TextWithin ⟨tree, ["proj"]⟩ ["proj", other] text) :
    (LocalSource.mk tree ["proj"]).toContentSource.served? ⟨path, .streamFile, none⟩ =
      some (lines text) := by
  have listing : (LocalSource.mk tree ["proj"]).listing ["proj"] =
      ["main.rpgle", "µ", "ÿ", "Ÿ", "Μ"] := by
    simp only [LocalSource.listing, located]
    rw [FileTree.namesIn, listed]
    exact List.mergeSort_of_pairwise (by decide +kernel)
  rw [← listing] at first
  exact served_in_other_case rfl named moves absent first held

theorem shadowed_before :
    (buildModel (LocalSource.mk shadowedEnvironment.tree ["proj"]).toContentSource { home := "/" }
      ⟨Addressing.streamFile.name, "/main.rpgle"⟩ shadowedText).model.declarations.length = 3 := by
  have near : LocalSource.TextWithin ⟨shadowedEnvironment.tree, ["proj"]⟩ ["proj", "ÿ"]
      "dcl-c near 2;\n" :=
    ⟨by decide +kernel, ⟨encodeUtf8 "dcl-c near 2;\n", by decide +kernel, by decide +kernel⟩,
      by decide +kernel⟩
  have far : LocalSource.TextWithin ⟨shadowedEnvironment.tree, ["proj"]⟩ ["proj", "µ"]
      "dcl-c far 1;\n" :=
    ⟨by decide +kernel, ⟨encodeUtf8 "dcl-c far 1;\n", by decide +kernel, by decide +kernel⟩,
      by decide +kernel⟩
  have nearNamed : LocalSource.streamNames "/Ÿ" = ["Ÿ"] := by decide +kernel
  have farNamed : LocalSource.streamNames "/Μ" = ["Μ"] := by decide +kernel
  rw [shadowed_model
    (shadowed_served (by decide +kernel) (by decide +kernel) nearNamed (by decide +kernel)
      (by decide +kernel) (by decide +kernel) near)
    (shadowed_served (by decide +kernel) (by decide +kernel) farNamed (by decide +kernel)
      (by decide +kernel) (by decide +kernel) far)]
  decide +kernel

theorem shadowed_made :
    (buildModel (LocalSource.mk shadowedMade ["proj"]).toContentSource { home := "/" }
      ⟨Addressing.streamFile.name, "/main.rpgle"⟩ shadowedText).model.declarations.length = 2 := by
  have far : LocalSource.TextWithin ⟨shadowedMade, ["proj"]⟩ ["proj", "µ"] "dcl-c far 1;\n" :=
    ⟨by decide +kernel, ⟨encodeUtf8 "dcl-c far 1;\n", by decide +kernel, by decide +kernel⟩,
      by decide +kernel⟩
  have farNamed : LocalSource.streamNames "/Μ" = ["Μ"] := by decide +kernel
  have nearServed : (LocalSource.mk shadowedMade ["proj"]).toContentSource.served?
      ⟨"/Ÿ", .streamFile, none⟩ = none := by decide +kernel
  rw [shadowed_model nearServed
    (shadowed_served (by decide +kernel) (by decide +kernel) farNamed (by decide +kernel)
      (by decide +kernel) (by decide +kernel) far)]
  decide +kernel

def shadowedWritten (bytes : List UInt8) : FileTree :=
  ⟨shadowedMade.entries ++ [(["out", artifactName], .file bytes)]⟩

theorem shadowed_after (bytes : List UInt8) :
    (buildModel (LocalSource.mk (shadowedWritten bytes) ["proj"]).toContentSource { home := "/" }
      ⟨Addressing.streamFile.name, "/main.rpgle"⟩ shadowedText).model.declarations.length = 1 := by
  have nearServed : (LocalSource.mk (shadowedWritten bytes) ["proj"]).toContentSource.served?
      ⟨"/Ÿ", .streamFile, none⟩ = none := by rfl
  have farServed : (LocalSource.mk (shadowedWritten bytes) ["proj"]).toContentSource.served?
      ⟨"/Μ", .streamFile, none⟩ = none := by rfl
  rw [shadowed_model nearServed farServed]
  decide +kernel

theorem shadowed_rows :
    ((SymbolRecord.sort (gatherAll (LocalSource.mk shadowedMade ["proj"]).toContentSource "/"
      [(["main.rpgle"], encodeUtf8 shadowedText)]).records).filter
        fun row => row.document = "/main.rpgle").length = 2 := by
  have gathered := gathered_all (LocalSource.mk shadowedMade ["proj"]).toContentSource "/"
    [(["main.rpgle"], encodeUtf8 shadowedText)]
  have documents : freeDocuments [(["main.rpgle"], encodeUtf8 shadowedText)] =
      [("/main.rpgle", shadowedText)] := by decide +kernel
  have own : ∀ row ∈ rowsAlone (LocalSource.mk shadowedMade ["proj"]).toContentSource "/"
      ("/main.rpgle", shadowedText), decide (row.document = "/main.rpgle") = true := by
    intro row listed
    simpa using document_of_row listed
  rw [SymbolRecord.sort, ((List.mergeSort_perm _ _).filter _).length_eq, gathered.records, documents,
    List.flatMap_singleton, List.filter_eq_self.mpr own, rowsAlone, List.length_map]
  exact shadowed_made

theorem shadowed_prints {scene : Environment} (based : scene.givenPlace (.text "proj") = .ok ["proj"])
    (placed : scene.place "proj/main.rpgle" = .ok ["proj", "main.rpgle"])
    (loads : loadConfig scene.tree ["proj"] = .config {})
    (reads : scene.tree.read ["proj", "main.rpgle"] = .ok (encodeUtf8 shadowedText))
    (unequal : (buildModel (LocalSource.mk scene.tree ["proj"]).toContentSource { home := "/" }
      ⟨Addressing.streamFile.name, "/main.rpgle"⟩ shadowedText).model.declarations.length ≠ 2) :
    ∃ (model : Model) (messages : String),
      runSymbols scene false "proj/main.rpgle" (.text "proj") none Addressing.streamFile.name none =
        .ok { exit := 0, output := model.printed ++ "\n", messages := messages, tree := scene.tree } ∧
      ¬ (model.declarations.map (SymbolRecord.ofDeclaration "/main.rpgle")).Perm
        ((SymbolRecord.sort (gatherAll (LocalSource.mk shadowedMade ["proj"]).toContentSource "/"
          [(["main.rpgle"], encodeUtf8 shadowedText)]).records).filter
            fun row => row.document = "/main.rpgle") := by
  have path : documentPath ["proj", "main.rpgle"] ["proj"] none = "/main.rpgle" := by decide +kernel
  have text : readTextReplacing (encodeUtf8 shadowedText) = shadowedText := by decide +kernel
  have prints := symbols_of_run based placed loads reads false Addressing.streamFile.name
  rw [path, text] at prints
  refine ⟨_, _, prints, ?_⟩
  intro same
  have counted := same.length_eq
  rw [List.length_map, shadowed_rows] at counted
  exact unequal counted

end Shadowed

/-- An output directory outside the root is not enough. A link below the root that leads to it, or to
the artifact, leads somewhere only once the directory or the artifact is there, and then hides the
file whose name is the link's in another case. -/
theorem shadowed_models_differ :
    ∃ finished records,
      runGenerate shadowedEnvironment false "proj" (some (.text "out")) = .ok finished ∧
      finished.exit = 0 ∧ shadowedEnvironment.place "proj" = .ok ["proj"] ∧
      shadowedEnvironment.place "out" = .ok ["out"] ∧
      finished.tree.below ["proj"] = shadowedEnvironment.tree.below ["proj"] ∧
      finished.tree.read ["out", artifactName] = .ok (SymbolRecord.encode records) ∧
      ∀ tree ∈ [shadowedEnvironment.tree, finished.tree], ∃ (model : Model) (messages : String),
        runSymbols { shadowedEnvironment with tree := tree } false "proj/main.rpgle" (.text "proj") none
            Addressing.streamFile.name none = .ok {
          exit := 0
          output := model.printed ++ "\n"
          messages := messages
          tree := tree } ∧
        ¬ (model.declarations.map (SymbolRecord.ofDeclaration "/main.rpgle")).Perm
          (records.filter fun row => row.document = "/main.rpgle") := by
  have rooted : shadowedEnvironment.place "proj" = .ok ["proj"] := by decide +kernel
  have directed : shadowedEnvironment.givenPlace (.text "out") = .ok ["out"] := by decide +kernel
  have loads : loadConfig shadowedEnvironment.tree ["proj"] = .config {} := rfl
  have makes : shadowedEnvironment.tree.makeDirectories ["out"] = .ok shadowedMade := rfl
  have skips : relativeOutputDir shadowedMade ["out"] ["proj"] = .ok "" := by decide +kernel
  have located : shadowedMade.locate ["proj"] = .ok ["proj"] := by decide +kernel
  have unignored : ignoreFilesBelow shadowedMade ["proj"] false = [] := by
    rw [ignoreFilesBelow]
    exact List.mergeSort_of_pairwise .nil
  have selected : selectSources
      ⟨[".rpgle", ".sqlrpgle", ".rpgleinc"].map caseFold, skippedNames "", [], [],
        fun _ => .ok false⟩
      (shadowedMade.below ["proj"]) = .ok [(["main.rpgle"], encodeUtf8 shadowedText)] := by
    decide +kernel
  have finds : findSources shadowedMade ["proj"] {} (some "") =
      .ok [(["main.rpgle"], encodeUtf8 shadowedText)] :=
    find_sources_ordered located (by decide +kernel) unignored selected (List.pairwise_singleton _ _)
  have writes : ∀ bytes, shadowedMade.write ["out", artifactName] bytes =
      .ok (shadowedWritten bytes) := fun bytes => rfl
  have runs := run_of_steps rooted directed loads (by decide +kernel) makes skips finds false (writes _)
  refine ⟨_, _, runs, rfl, rooted, directed, rfl, FileTree.read_write (writes _), ?_⟩
  intro tree moment
  simp only [List.mem_cons, List.not_mem_nil, or_false] at moment
  rcases moment with rfl | rfl
  · apply shadowed_prints rooted (by decide +kernel) loads (by decide +kernel)
    rw [shadowed_before]
    decide
  · apply shadowed_prints rfl rfl rfl rfl
    rw [shadowed_after]
    decide

end RpgSymbols.Command
