import RpgSymbols.Artifact.Generate
import RpgSymbols.Proofs.Artifact.ReadingBack
import RpgSymbols.Proofs.Files.Selection
import RpgSymbols.Proofs.Include.Building
import RpgSymbols.Proofs.Source.Positions
import Mathlib.Data.Prod.Lex
import Mathlib.Data.String.Basic

/-!
The rows of the artifact. Although all documents share one content cache, each has the rows of its
model built alone, since documents of one scheme do not notice what others fetched. Rows are in
strictly increasing order: documents have paths of their own, and no two declarations of a model
share a position.
-/

namespace RpgSymbols

open Text

/-! The order of rows. -/

def SymbolRecord.sortKey (record : SymbolRecord) : String ×ₗ String ×ₗ Int ×ₗ String ×ₗ String :=
  toLex (record.document, toLex (record.path, toLex (record.line,
    toLex (record.kind.name, record.name))))

theorem Kind.name_injective : Function.Injective Kind.name := by
  intro one other
  cases one <;> cases other <;> simp [Kind.name]

theorem lex_le_iff {First Second : Type} [LinearOrder First] [LE Second] (one other : First)
    (rest rest' : Second) :
    toLex (one, rest) ≤ toLex (other, rest') ↔
      if one ≠ other then one < other else rest ≤ rest' := by
  rw [Prod.Lex.toLex_le_toLex]
  by_cases same : one = other
  · simp [same]
  · simp [same]

theorem SymbolRecord.precedes_iff (one other : SymbolRecord) :
    one.precedes other = true ↔ one.sortKey ≤ other.sortKey := by
  simp only [precedes, sortKey, lex_le_iff, Kind.name_injective.ne_iff]
  split
  · simp
  · split
    · simp
    · split
      · simp
      · split <;> simp

theorem SymbolRecord.parts_of_sort_key {one other : SymbolRecord}
    (same : one.sortKey = other.sortKey) :
    one.document = other.document ∧ one.path = other.path ∧ one.line = other.line := by
  obtain ⟨document, rest⟩ := Prod.mk.inj (toLex.injective same)
  obtain ⟨path, rest⟩ := Prod.mk.inj (toLex.injective rest)
  exact ⟨document, path, (Prod.mk.inj (toLex.injective rest)).1⟩

theorem SymbolRecord.sort_increasing (records : List SymbolRecord) :
    (sort records).Pairwise fun one other => one.sortKey ≤ other.sortKey := by
  have transitive : ∀ one other third : SymbolRecord, one.precedes other = true →
      other.precedes third = true → one.precedes third = true := by
    intro one other third
    simp only [precedes_iff]
    exact le_trans
  have total : ∀ one other : SymbolRecord,
      (one.precedes other || other.precedes one) = true := by
    intro one other
    simp only [Bool.or_eq_true, precedes_iff]
    exact le_total _ _
  have sorted := List.pairwise_mergeSort transitive total records
  exact sorted.imp fun before => (precedes_iff _ _).mp before

/-! The rows of documents. -/

def freeDocuments (sources : List (List String × List UInt8)) : List (String × String) :=
  sources.filterMap fun source =>
    let text := readTextReplacing source.2
    if isFreeFormat text then some (Place.text source.1, text) else none

/-- The rows of a document whose model is built with a cache of its own. -/
def rowsAlone (source : ContentSource) (home : String) (document : String × String) :
    List SymbolRecord :=
  (buildModel source { home := home } ⟨Addressing.streamFile.name, document.1⟩
    document.2).model.declarations.map (SymbolRecord.ofDeclaration document.1)

theorem rows_alone_distinct (source : ContentSource) (home : String) (document : String × String) :
    (rowsAlone source home document).Pairwise fun one other => one.sortKey ≠ other.sortKey := by
  obtain ⟨files, different, built⟩ := build_model_own source { home := home }
    ⟨Addressing.streamFile.name, document.1⟩ document.2
  have positions := List.pairwise_map.mp (positions_distinct different)
  rw [rowsAlone, built, List.pairwise_map]
  refine positions.imp_of_mem ?_
  intro one other listed otherListed differs same
  obtain ⟨⟨path, line⟩, placed⟩ := position_of_declaration listed
  obtain ⟨⟨otherPath, otherLine⟩, otherPlaced⟩ := position_of_declaration otherListed
  obtain ⟨_, samePath, sameLine⟩ := SymbolRecord.parts_of_sort_key same
  simp only [SymbolRecord.ofDeclaration, placed, otherPlaced, Option.elim_some] at samePath sameLine
  rw [placed, otherPlaced, samePath, sameLine] at differs
  exact differs rfl

theorem free_documents_distinct {sources : List (List String × List UInt8)}
    (apart : SourcesApart sources) :
    (freeDocuments sources).Pairwise fun one other => one.1 ≠ other.1 := by
  obtain ⟨named, slashFree, distinct⟩ := apart
  rw [freeDocuments, List.pairwise_filterMap]
  refine distinct.imp_of_mem ?_
  intro one other listed otherListed differs document found document' found' same
  dsimp only at found found'
  split at found
  · split at found'
    · cases found
      cases found'
      exact differs (place_text_injective (named one listed) (named other otherListed)
        (slashFree one listed) (slashFree other otherListed) same)
    · cases found'
  · cases found

theorem document_of_row {source : ContentSource} {home : String} {document : String × String}
    {row : SymbolRecord} (listed : row ∈ rowsAlone source home document) :
    row.document = document.1 := by
  obtain ⟨declaration, _, rfl⟩ := List.mem_map.mp listed
  rfl

theorem rows_distinct (source : ContentSource) (home : String)
    {sources : List (List String × List UInt8)} (apart : SourcesApart sources) :
    ((freeDocuments sources).flatMap (rowsAlone source home)).Pairwise
      fun one other => one.sortKey ≠ other.sortKey := by
  rw [List.pairwise_flatMap]
  refine ⟨fun document _ => rows_alone_distinct source home document, ?_⟩
  refine (free_documents_distinct apart).imp ?_
  intro one other differs row listed otherRow otherListed same
  have document := (SymbolRecord.parts_of_sort_key same).1
  rw [document_of_row listed, document_of_row otherListed] at document
  exact differs document

/-! Gathering with one cache. -/

/-- The state after some sources: nothing but stream files asked the shared cache for something, and
each document has the rows it has alone. -/
structure GatheredFrom (source : ContentSource) (home : String)
    (sources : List (List String × List UInt8)) (gathered : Gathered) : Prop where
  shared : ∃ calls : List (Document × String),
    gathered.cache = ContentCache.afterFetches source { home := home } calls ∧
      ∀ call ∈ calls, call.1.scheme = Addressing.streamFile.name
  records : gathered.records = (freeDocuments sources).flatMap (rowsAlone source home)
  documents : gathered.documents = (freeDocuments sources).length

theorem ContentCache.after_fetches_append (source : ContentSource) (cache : ContentCache)
    (first second : List (Document × String)) :
    cache.afterFetches source (first ++ second) =
      (cache.afterFetches source first).afterFetches source second :=
  List.foldl_append

theorem add_free (source : ContentSource) (gathered : Gathered)
    {file : List String × List UInt8} (free : isFreeFormat (readTextReplacing file.2) = true) :
    let built := buildModel source gathered.cache
      ⟨Addressing.streamFile.name, Place.text file.1⟩ (readTextReplacing file.2)
    gathered.add source file.1 file.2 =
      ⟨built.cache, gathered.documents + 1,
        gathered.records ++
          built.model.declarations.map (SymbolRecord.ofDeclaration (Place.text file.1)),
        gathered.events ++ built.events⟩ := by
  simp only [Gathered.add, free, if_true, Place.text]

theorem gathered_add {source : ContentSource} {home : String}
    {sources : List (List String × List UInt8)} {gathered : Gathered}
    (fits : GatheredFrom source home sources gathered) (file : List String × List UInt8) :
    GatheredFrom source home (sources ++ [file]) (gathered.add source file.1 file.2) := by
  obtain ⟨⟨calls, held, scheme⟩, records, documents⟩ := fits
  have listed : freeDocuments (sources ++ [file]) =
      freeDocuments sources ++ freeDocuments [file] := List.filterMap_append
  by_cases free : isFreeFormat (readTextReplacing file.2) = true
  · have document : freeDocuments [file] = [(Place.text file.1, readTextReplacing file.2)] := by
      simp [freeDocuments, free]
    have alike : ContentCache.AnswersAlike source
        ⟨Addressing.streamFile.name, Place.text file.1⟩ { home := home } gathered.cache := by
      rw [held]
      exact ContentCache.after_fetches_answers_alike _ calls scheme
    have model := build_model_alike alike (readTextReplacing file.2)
    have cached := build_model_cache source gathered.cache
      ⟨Addressing.streamFile.name, Place.text file.1⟩ (readTextReplacing file.2)
    rw [add_free source gathered free]
    generalize buildModel source gathered.cache _ _ = built at model cached ⊢
    constructor
    · refine ⟨calls ++ includeCalls ⟨Addressing.streamFile.name, Place.text file.1⟩
        (lines (readTextReplacing file.2)), ?_, ?_⟩
      · rw [ContentCache.after_fetches_append, ← held]
        exact cached
      · intro call member
        rcases List.mem_append.mp member with before | own
        · exact scheme call before
        · rw [mem_include_calls own]
    · rw [listed, document, List.flatMap_append, ← records, List.flatMap_singleton, rowsAlone,
        ← model]
    · rw [listed, document, documents, List.length_append, List.length_singleton]
  · have nothing : freeDocuments [file] = [] := by
      simp [freeDocuments, free]
    have unchanged : gathered.add source file.1 file.2 = gathered := by
      simp only [Gathered.add, if_neg free]
    rw [nothing, List.append_nil] at listed
    rw [unchanged]
    exact ⟨⟨calls, held, scheme⟩, listed ▸ records, listed ▸ documents⟩

theorem gathered_all (source : ContentSource) (home : String)
    (sources : List (List String × List UInt8)) :
    GatheredFrom source home sources (gatherAll source home sources) := by
  induction sources using List.reverseRecOn with
  | nil => exact ⟨⟨[], rfl, by simp⟩, rfl, rfl⟩
  | append_singleton earlier file induction =>
      have last : gatherAll source home (earlier ++ [file]) =
          (gatherAll source home earlier).add source file.1 file.2 := by
        simp only [gatherAll, List.foldl_append, List.foldl_cons, List.foldl_nil]
      rw [last]
      exact gathered_add induction file

/-! The artifact. -/

/-- Generation that returns went through all its steps. -/
theorem generate_steps {tree : FileTree} {root output : List String} {config : Config}
    {generated : Generated} (returns : generateIn tree root output config = .ok generated) :
    ∃ made skipped sources, tree.makeDirectories output.reverse = .ok made ∧
      relativeOutputDir made output root = .ok skipped ∧
      findSources made root config (some skipped) = .ok sources ∧
      generated.artifact = output ++ [artifactName] ∧
      made.write generated.artifact (SymbolRecord.encode generated.records) =
        .ok generated.tree ∧
      let gathered := gatherAll (LocalSource.mk made root).toContentSource config.homeDirectory
        sources
      generated.records = SymbolRecord.sort gathered.records ∧
        generated.documents = gathered.documents := by
  simp only [generateIn, bind, Except.bind] at returns
  split at returns
  · cases returns
  · cases makes : tree.makeDirectories output.reverse with
    | error failure =>
        simp only [makes] at returns
        cases returns
    | ok made =>
        cases skips : relativeOutputDir made output root with
        | error failure =>
            simp only [makes, skips] at returns
            cases returns
        | ok skipped =>
            cases finds : findSources made root config (some skipped) with
            | error failure =>
                simp only [makes, skips, finds] at returns
                cases returns
            | ok sources =>
                simp only [makes, skips, finds] at returns
                split at returns
                · cases returns
                · rename_i written writes
                  cases returns
                  exact ⟨made, skipped, sources, rfl, skips, finds, rfl, writes, rfl, rfl⟩

theorem group_tags_distinct (tags : List Tag) :
    (Table.keys (SymbolRecord.groupTags tags)).Nodup := by
  have onward : ∀ table : Table (List String), table.keys.Nodup →
      (tags.foldl (fun table tag =>
        Table.set tag.tag ((Table.get? tag.tag table).getD [] ++ [tag.content]) table)
          table).keys.Nodup := by
    induction tags with
    | nil => exact fun _ distinct => distinct
    | cons tag rest induction =>
        exact fun _ distinct => induction _ (Table.distinct_set distinct _ _)
  exact onward [] List.nodup_nil

theorem rows_alone_readable {source : ContentSource} {home : String}
    {documents : List (String × String)} {row : SymbolRecord}
    (listed : row ∈ documents.flatMap (rowsAlone source home))
    (line : Number.fitsWord row.line = true) :
    row.fits = true ∧ (Table.keys row.tags).Nodup := by
  obtain ⟨document, _, own⟩ := List.mem_flatMap.mp listed
  obtain ⟨declaration, _, rfl⟩ := List.mem_map.mp own
  exact ⟨SymbolRecord.fits_iff.mpr ⟨line, rfl⟩, group_tags_distinct declaration.tags⟩

/-- Generation that returns wrote the rows of every free-format source, each with the model it has
alone, in strictly increasing order, and counted those sources. What it wrote is read as one object
for each row, if their line numbers have a place in 64 bits. -/
theorem generated_rows_alone {tree : FileTree} {root output : List String} {config : Config}
    {generated : Generated} (regular : tree.Regular)
    (returns : generateIn tree root output config = .ok generated) :
    ∃ made skipped sources, tree.makeDirectories output.reverse = .ok made ∧
      relativeOutputDir made output root = .ok skipped ∧
      findSources made root config (some skipped) = .ok sources ∧
      generated.artifact = output ++ [artifactName] ∧
      generated.tree.read generated.artifact = .ok (SymbolRecord.encode generated.records) ∧
      ((∀ row ∈ generated.records, Number.fitsWord row.line = true) →
        decodeRows? (SymbolRecord.encode generated.records) =
          some (generated.records.map SymbolRecord.toJson)) ∧
      generated.records.Perm ((freeDocuments sources).flatMap
        (rowsAlone (LocalSource.mk made root).toContentSource config.homeDirectory)) ∧
      (generated.records.Pairwise fun one other => one.sortKey < other.sortKey) ∧
      generated.documents = (freeDocuments sources).length := by
  obtain ⟨made, skipped, sources, makes, skips, finds, named, writes, sorted, counted⟩ :=
    generate_steps returns
  have furnished := FileTree.make_directories_furnishes makes
  have apart := find_sources_apart regular furnished finds
  have gathered := gathered_all (LocalSource.mk made root).toContentSource config.homeDirectory
    sources
  have rows : generated.records.Perm ((freeDocuments sources).flatMap
      (rowsAlone (LocalSource.mk made root).toContentSource config.homeDirectory)) := by
    rw [sorted, ← gathered.records]
    exact List.mergeSort_perm _ _
  have different := (rows.pairwise_iff fun differs => Ne.symm differs).mpr
    (rows_distinct _ _ apart)
  have increasing : generated.records.Pairwise fun one other => one.sortKey ≤ other.sortKey := by
    rw [sorted]
    exact SymbolRecord.sort_increasing _
  refine ⟨made, skipped, sources, makes, skips, finds, named, FileTree.read_write writes, ?_, rows,
    ?_, counted.trans gathered.documents⟩
  · intro fits
    have readable := fun row listed =>
      rows_alone_readable (rows.mem_iff.mp listed) (fits row listed)
    exact SymbolRecord.read_back (fun row listed => (readable row listed).1)
      fun row listed => (readable row listed).2
  · exact (increasing.and different).imp fun both => lt_of_le_of_ne both.1 both.2

/-- Two sources that include a third one, which is a source itself. -/
def sharedSources : List (List String × List UInt8) := [
  (["a.rpgle"], encodeUtf8 "**free\n/copy shared.rpgle\ndcl-s x int(10);\n"),
  (["b.rpgle"], encodeUtf8 "**free\n/copy /shared.rpgle\ndcl-s y int(10);\n"),
  (["shared.rpgle"], encodeUtf8 "**free\ndcl-c k 1;\n")]

def sharedTree : FileTree where
  entries := (["p"], .directory) ::
    sharedSources.map fun source => ("p" :: source.1, .file source.2)

def sharedTreeMade : FileTree := sharedTree.put ["p", "out"] .directory

theorem shared_sources_found :
    findSources sharedTreeMade ["p"] {} (some "out") = .ok sharedSources := by
  have located : sharedTreeMade.locate ["p"] = .ok ["p"] := by decide +kernel
  have directory : sharedTreeMade.isDirectoryAt ["p"] = true := by decide +kernel
  have unignored : ignoreFilesBelow sharedTreeMade ["p"] false = [] :=
    no_ignore_files (by decide +kernel)
  have selected : selectSources
      ⟨[".rpgle", ".sqlrpgle", ".rpgleinc"].map caseFold, skippedNames "out", [], [],
        fun _ => .ok false⟩
      (sharedTreeMade.below ["p"]) = .ok sharedSources := by decide +kernel
  have ordered : sharedSources.Pairwise fun one other =>
      decide (join "/" one.1 ≤ join "/" other.1) = true := by decide +kernel
  exact find_sources_ordered located directory unignored selected ordered

theorem shared_rows_alone :
    sharedTree.Regular ∧ ∃ generated,
      generateIn sharedTree ["p"] ["p", "out"] {} = .ok generated ∧ generated.documents = 3 ∧
      (generated.records.Pairwise fun one other => one.sortKey < other.sortKey) ∧
      generated.records.Perm ((freeDocuments sharedSources).flatMap (rowsAlone
        (LocalSource.mk sharedTreeMade ["p"]).toContentSource "/")) := by
  have regular : sharedTree.Regular := ⟨by decide +kernel, by decide +kernel⟩
  have makes : sharedTree.makeDirectories ["out", "p"] = .ok sharedTreeMade := rfl
  have skips : relativeOutputDir sharedTreeMade ["p", "out"] ["p"] = .ok "out" := by
    decide +kernel
  have writes : ∀ bytes, ∃ written,
      sharedTreeMade.write ["p", "out", artifactName] bytes = .ok written :=
    fun bytes => ⟨_, rfl⟩
  have plain : hasNull ["p", "out"] = false := by decide +kernel
  cases result : generateIn sharedTree ["p"] ["p", "out"] {} with
  | error failure =>
      simp only [generateIn, bind, Except.bind, List.reverse_cons, List.reverse_nil,
        List.nil_append, List.cons_append, makes, skips, shared_sources_found] at result
      obtain ⟨written, wrote⟩ := writes _
      rw [wrote, plain] at result
      cases result
  | ok generated =>
      obtain ⟨_, _, _, making, skipping, finding, _, _, _, rows, increasing, counted⟩ :=
        generated_rows_alone regular result
      cases makes.symm.trans making
      cases skips.symm.trans skipping
      cases shared_sources_found.symm.trans finding
      have three : (freeDocuments sharedSources).length = 3 := by decide +kernel
      exact ⟨regular, generated, rfl, counted.trans three, increasing, rows⟩

end RpgSymbols
