import RpgSymbols.Cache.Model
import RpgSymbols.Proofs.Cache.Fetching
import RpgSymbols.Proofs.Source.Provenance
import RpgSymbols.Proofs.Source.Silence

/-!
Which files a model is made from. Targets may be repeated, spelled in several ways, without an
address, cached or impossible to fetch, and one that cannot be fetched still adds a file without
lines. Such a file leaves no trace: the model is the one of the document and of those included
files whose lines can be had.
-/

namespace RpgSymbols

open Text

def ContentCache.address? (cache : ContentCache) (document : Document) (target : String) :
    Option Resolved :=
  (cache.resolve document target).toOption

theorem ContentCache.address_iff (cache : ContentCache) (document : Document) (target : String)
    (resolved : Resolved) :
    cache.address? document target = some resolved ↔
      cache.resolve document target = .ok resolved := by
  unfold address?
  cases cache.resolve document target <;> simp [Except.toOption]

/-- The addresses that targets of a document have, each once, in the order of the targets. The
document itself is not among them. -/
def includedAddresses (cache : ContentCache) (document : Document) (targets : List String) :
    List Resolved :=
  ((targets.filterMap (cache.address? document)).filter fun resolved =>
    resolved.canonicalPath ≠ document.path).eraseDups

/-- The included files whose lines are cached or can be fetched, from the last directive to the
first. -/
def includedFiles (source : ContentSource) (cache : ContentCache) (document : Document)
    (lines : List String) : List (String × List String) :=
  (includedAddresses cache document (includeTargets lines)).filterMap fun resolved =>
    (cache.available? source resolved).map fun found => (resolved.canonicalPath, found)

section Addresses

variable {cache : ContentCache} {document : Document} {targets : List String} {target : String}
  {resolved : Resolved}

theorem mem_included_addresses :
    resolved ∈ includedAddresses cache document targets ↔
      (∃ target ∈ targets, cache.resolve document target = .ok resolved) ∧
        resolved.canonicalPath ≠ document.path := by
  simp only [includedAddresses, List.mem_eraseDups, List.mem_filter, List.mem_filterMap,
    ContentCache.address_iff, decide_eq_true_eq]

theorem addresses_unresolved {reason : Unresolvable} (targets : List String)
    (unresolved : cache.resolve document target = .error reason) :
    includedAddresses cache document (targets ++ [target]) =
      includedAddresses cache document targets := by
  have nothing : cache.address? document target = none := by
    rw [ContentCache.address?, unresolved]
    rfl
  rw [includedAddresses, List.filterMap_append, List.filterMap_cons_none nothing,
    List.filterMap_nil, List.append_nil, includedAddresses]

theorem addresses_known (resolves : cache.resolve document target = .ok resolved)
    (known : resolved.canonicalPath = document.path ∨
      resolved ∈ includedAddresses cache document targets) :
    includedAddresses cache document (targets ++ [target]) =
      includedAddresses cache document targets := by
  have answer := (cache.address_iff document target resolved).mpr resolves
  unfold includedAddresses at known ⊢
  rw [List.filterMap_append, List.filterMap_cons_some answer, List.filterMap_nil,
    List.filter_append]
  by_cases own : resolved.canonicalPath = document.path
  · rw [List.filter_cons_of_neg (by simp [own]), List.filter_nil, List.append_nil]
  · rw [List.filter_cons_of_pos (by simp [own]), List.filter_nil, erase_dups_concat,
      if_pos (List.mem_eraseDups.mp (known.resolve_left own))]

theorem addresses_new (resolves : cache.resolve document target = .ok resolved)
    (new : ¬(resolved.canonicalPath = document.path ∨
      resolved ∈ includedAddresses cache document targets)) :
    includedAddresses cache document (targets ++ [target]) =
      includedAddresses cache document targets ++ [resolved] := by
  have answer := (cache.address_iff document target resolved).mpr resolves
  obtain ⟨other, absent⟩ := not_or.mp new
  unfold includedAddresses at absent ⊢
  rw [List.filterMap_append, List.filterMap_cons_some answer, List.filterMap_nil,
    List.filter_append, List.filter_cons_of_pos (by simp [other]), List.filter_nil,
    erase_dups_concat, if_neg (mt List.mem_eraseDups.mpr absent)]

/-- An address is known by its path. -/
theorem path_included_iff (resolves : cache.resolve document target = .ok resolved) :
    resolved.canonicalPath ∈
        (includedAddresses cache document targets).map Resolved.canonicalPath ↔
      resolved ∈ includedAddresses cache document targets := by
  constructor
  · intro listed
    obtain ⟨known, member, same⟩ := List.mem_map.mp listed
    obtain ⟨⟨other, _, finds⟩, _⟩ := mem_included_addresses.mp member
    rw [← resolved_of_canonical_path finds resolves same]
    exact member
  · exact List.mem_map_of_mem

end Addresses

theorem erase_dups_nodup {Value : Type} [BEq Value] [LawfulBEq Value] (values : List Value) :
    values.eraseDups.Nodup := by
  induction values using List.reverseRecOn with
  | nil => exact List.nodup_nil
  | append_singleton rest value induction =>
      rw [erase_dups_concat]
      split
      · exact induction
      · rename_i new
        rw [← List.concat_eq_append]
        exact List.Nodup.concat (mt List.mem_eraseDups.mp new) induction

theorem included_paths_nodup (cache : ContentCache) (document : Document)
    (targets : List String) :
    ((includedAddresses cache document targets).map Resolved.canonicalPath).Nodup := by
  apply List.Nodup.map_on
  · intro first listed second found same
    obtain ⟨⟨firstTarget, _, left⟩, _⟩ := mem_included_addresses.mp listed
    obtain ⟨⟨secondTarget, _, right⟩, _⟩ := mem_included_addresses.mp found
    exact resolved_of_canonical_path left right same
  · exact erase_dups_nodup _

def FailsAmong (source : ContentSource) (cache : ContentCache) (document : Document)
    (targets : List String) (path : String) : Prop :=
  ∃ target ∈ targets, ∃ resolved, cache.resolve document target = .ok resolved ∧
    resolved.canonicalPath = path ∧ cache.available? source resolved = none

theorem fails_among_append {source : ContentSource} {cache : ContentCache} {document : Document}
    (first second : List String) (path : String) :
    FailsAmong source cache document (first ++ second) path ↔
      FailsAmong source cache document first path ∨
        FailsAmong source cache document second path := by
  simp only [FailsAmong, List.mem_append, or_and_right, exists_or]

section Discovery

variable (source : ContentSource) (cache : ContentCache) (document : Document)

/-- What is discovered after some targets: the document, then a file for each address; a cache that
answers as before; and a failure in the log for each target that has an address and no lines. -/
structure Found (own targets : List String) (found : Discovered) : Prop where
  files : found.files = (document.path, own) ::
    (includedAddresses cache document targets).map fun resolved =>
      (resolved.canonicalPath, (cache.available? source resolved).getD [])
  alike : cache.AnswersAlike source document found.cache
  failures : ∀ path, FetchFailed found.events path ↔
    FailsAmong source cache document targets path

section Targets

variable {source cache document}

theorem found_unresolved {own targets : List String} {found : Discovered} {target : String}
    {reason : Unresolvable} (before : Found source cache document own targets found)
    (unresolved : cache.resolve document target = .error reason) :
    Found source cache document own (targets ++ [target])
      (found.addTarget source document target) := by
  have here := (before.alike.resolve_eq target).trans unresolved
  rw [Discovered.addTarget, ContentCache.fetch_unresolved here]
  refine ⟨?_, before.alike, ?_⟩
  · rw [addresses_unresolved targets unresolved]
    exact before.files
  · intro path
    have silent : ¬FetchFailed [.noticed (.skippedInclude target reason)] path := by
      simp [FetchFailed]
    have alone : ¬FailsAmong source cache document [target] path := by
      simp [FailsAmong, unresolved]
    rw [fetch_failed_append, fails_among_append, before.failures]
    exact or_congr_right (iff_of_false silent alone)

theorem found_resolved {own targets : List String} {found : Discovered} {target : String}
    {resolved : Resolved} (before : Found source cache document own targets found)
    (resolves : cache.resolve document target = .ok resolved) :
    Found source cache document own (targets ++ [target])
      (found.addTarget source document target) := by
  have here := (before.alike.resolve_eq target).trans resolves
  have same := before.alike.lines target resolved resolves
  have path := ContentCache.path_of_fetch source here
  have lines := ContentCache.lines_of_fetch source here
  have failure := ContentCache.fetch_failed_iff source here
  have onward := before.alike.trans
    (ContentCache.fetch_answers_alike source found.cache rfl target)
  rw [Discovered.addTarget]
  -- From here on nothing but the facts above is used of the fetch.
  generalize found.cache.fetch source document target = fetched at *
  refine ⟨?_, onward, ?_⟩
  · have known : Table.hasKey resolved.canonicalPath found.files = true ↔
        resolved.canonicalPath = document.path ∨
          resolved ∈ includedAddresses cache document targets := by
      rw [Table.has_key_iff, before.files, List.map_cons, List.mem_cons, List.map_map,
        ← path_included_iff resolves]
      rfl
    simp only [path, lines, same]
    by_cases there : Table.hasKey resolved.canonicalPath found.files = true
    · rw [if_pos there, addresses_known resolves (known.mp there)]
      exact before.files
    · rw [if_neg there, addresses_new resolves (mt known.mpr there), before.files,
        List.map_append, List.cons_append]
      rfl
  · intro asked
    have alone : FailsAmong source cache document [target] asked ↔
        resolved.canonicalPath = asked ∧ cache.available? source resolved = none := by
      simp [FailsAmong, resolves]
    rw [fetch_failed_append, fails_among_append, before.failures, failure, same, alone]

end Targets

theorem found_discover (own targets : List String) :
    Found source cache document own targets
      (targets.foldl (Discovered.addTarget source document) ⟨[(document.path, own)], cache, []⟩) := by
  -- Files are added at the end, so the last target is the one that is split off.
  induction targets using List.reverseRecOn with
  | nil =>
      refine ⟨rfl, .refl source document cache, ?_⟩
      intro path
      simp [FetchFailed, FailsAmong]
  | append_singleton rest target induction =>
      rw [List.foldl_append, List.foldl_cons, List.foldl_nil]
      cases resolves : cache.resolve document target with
      | error reason => exact found_unresolved induction resolves
      | ok resolved => exact found_resolved induction resolves

end Discovery

/-- A file without lines is as good as no file. -/
theorem with_lines_only {Item : Type} (path : Item → String)
    (content : Item → Option (List String)) (items : List Item) :
    withInstructions (items.map fun item => (path item, (content item).getD [])) =
      withInstructions (items.filterMap fun item =>
        (content item).map fun lines => (path item, lines)) := by
  unfold withInstructions
  induction items with
  | nil => rfl
  | cons item rest induction =>
      rw [List.map_cons]
      cases held : content item with
      | none =>
          rw [List.filterMap_cons_none (by rw [held]; rfl),
            List.filter_cons_of_neg (by simpa using silent_nil), induction]
      | some lines =>
          rw [List.filterMap_cons_some (by rw [held]; rfl), List.filter_cons, List.filter_cons,
            induction]
          rfl

theorem keys_of_files {Item : Type} (path : Item → String)
    (content : Item → Option (List String)) (items : List Item) :
    ((items.filterMap fun item => (content item).map fun lines => (path item, lines)).map
      Prod.fst).Sublist (items.map path) := by
  induction items with
  | nil => exact List.Sublist.refl _
  | cons item rest induction =>
      rw [List.map_cons]
      cases held : content item with
      | none =>
          rw [List.filterMap_cons_none (by rw [held]; rfl)]
          exact induction.cons _
      | some lines =>
          rw [List.filterMap_cons_some (by rw [held]; rfl), List.map_cons]
          exact induction.cons_cons _

section Model

variable (source : ContentSource) (cache : ContentCache) (document : Document) (text : String)

/-- A model is made from the document and the included files that have lines. -/
theorem build_model_included :
    (buildModel source cache document text).model =
      assemble ((document.path, lines text) ::
        includedFiles source cache document (lines text)) := by
  have found := found_discover source cache document (lines text) (includeTargets (lines text))
  rw [buildModel, discover, found.files, includedFiles]
  generalize includeTargets (lines text) = targets
  generalize Text.lines text = own
  exact assemble_alike (with_lines_only Resolved.canonicalPath (cache.available? source) _) _

theorem build_model_failures (path : String) :
    FetchFailed (buildModel source cache document text).events path ↔
      FailsAmong source cache document (includeTargets (lines text)) path := by
  have found := found_discover source cache document (lines text) (includeTargets (lines text))
  rw [← found.failures, buildModel, fetch_failed_append, discover]
  apply or_iff_left
  simp [FetchFailed]

theorem files_nodup :
    (Table.keys ((document.path, lines text) ::
      includedFiles source cache document (lines text))).Nodup := by
  have paths := included_paths_nodup cache document (includeTargets (lines text))
  have some := keys_of_files Resolved.canonicalPath (cache.available? source)
    (includedAddresses cache document (includeTargets (lines text)))
  rw [Table.keys, List.map_cons, List.nodup_cons]
  refine ⟨?_, paths.sublist some⟩
  intro listed
  obtain ⟨resolved, member, same⟩ := List.mem_map.mp (some.mem listed)
  exact (mem_included_addresses.mp member).2 same

end Model

/-- The declaration, or a parameter of it, stands in the file of the path. -/
def Declaration.StandsIn (declaration : Declaration) (path : String) : Prop :=
  ∃ item ∈ declaration :: declaration.subItems, item.position.map Position.path = some path

theorem path_of_written {declaration : Declaration} {operation : Operation}
    {path other : String} {lines : List String}
    (written : declaration.WrittenIn operation path lines) (stands : declaration.StandsIn other) :
    path = other := by
  obtain ⟨number, display, opened⟩ := written
  obtain ⟨item, listed, placed⟩ := stands
  rcases List.mem_cons.mp listed with rfl | parameter
  · rw [opened.position] at placed
    exact Option.some.inj placed
  · obtain ⟨numbers, positions, _⟩ := opened.parameters
    have found : item.position ∈ declaration.subItems.map Declaration.position :=
      List.mem_map_of_mem parameter
    rw [positions] at found
    obtain ⟨place, _, same⟩ := List.mem_map.mp found
    rw [← same] at placed
    exact Option.some.inj placed

/-- What a model declares stands in the files it is made from. -/
theorem file_of_declaration {files : List (String × List String)} {declaration : Declaration}
    {path : String} (listed : declaration ∈ (assemble files).declarations)
    (stands : declaration.StandsIn path) : ∃ file ∈ files, file.1 = path := by
  have among : ∀ kind operation, declaration.WrittenAmong kind operation files →
      ∃ file ∈ files, file.1 = path := by
    rintro kind operation ⟨_, file, member, written⟩
    exact ⟨file, member, path_of_written written stands⟩
  have written := Assembler.finish_written (Assembler.gathered_since {} files)
  simp only [Model.declarations, List.mem_append, or_assoc] at listed
  rcases listed with constant | standalone | structured | procedure | subroutine
  · exact among _ _ (written.constants declaration constant)
  · exact among _ _ (written.standalones declaration standalone)
  · exact among _ _ (written.structures declaration structured)
  · rcases written.procedures declaration procedure with prototype | definition
    · exact among _ _ prototype
    · exact among _ _ definition
  · exact among _ _ (written.subroutines declaration subroutine)

/-- The files of a model are the document and, behind it, each included file whose lines are cached
or can be fetched, once and from the last directive to the first. Nothing is declared at a path
whose fetch failed, unless it is the path of the document itself; and where no include has lines,
the model is the one of the document alone. -/
theorem failed_includes_erased (source : ContentSource) (cache : ContentCache)
    (document : Document) (text : String) :
    (Table.keys ((document.path, lines text) ::
      includedFiles source cache document (lines text))).Nodup ∧
    (buildModel source cache document text).model =
      assemble ((document.path, lines text) ::
        includedFiles source cache document (lines text)) ∧
    (∀ path, FetchFailed (buildModel source cache document text).events path →
      path ≠ document.path →
      ∀ declaration ∈ (buildModel source cache document text).model.declarations,
        ¬declaration.StandsIn path) ∧
    ((∀ target ∈ includeTargets (lines text), ∀ resolved,
        cache.resolve document target = .ok resolved → cache.available? source resolved = none) →
      (buildModel source cache document text).model = assemble [(document.path, lines text)]) := by
  have included := build_model_included source cache document text
  refine ⟨files_nodup source cache document text, included, ?_, ?_⟩
  · intro path failed other declaration listed stands
    obtain ⟨target, _, resolved, resolves, same, missing⟩ :=
      (build_model_failures source cache document text path).mp failed
    rw [included] at listed
    obtain ⟨file, member, here⟩ := file_of_declaration listed stands
    rcases List.mem_cons.mp member with rfl | behind
    · exact other here.symm
    · obtain ⟨found, address, held⟩ := List.mem_filterMap.mp behind
      obtain ⟨⟨asked, _, finds⟩, _⟩ := mem_included_addresses.mp address
      obtain ⟨lines, available, rfl⟩ := Option.map_eq_some_iff.mp held
      rw [resolved_of_canonical_path finds resolves (here.trans same.symm), missing] at available
      cases available
  · intro fails
    have nothing : includedFiles source cache document (lines text) = [] := by
      apply List.filterMap_eq_nil_iff.mpr
      intro resolved address
      obtain ⟨⟨target, listed, resolves⟩, _⟩ := mem_included_addresses.mp address
      rw [fails target listed resolved resolves]
      rfl
    rw [included, nothing]

def ContentSource.ofStreams (streams : Table String) : ContentSource where
  serve
    | .stream path => (Table.get? path streams).elim
        (.error (.unavailable ("no stream " ++ path))) .ok
    | .member _ => .error (.unavailable "no member")

/-- The file `/B` is missing, and is asked for in two spellings. -/
theorem missing_include_erased :
    let text := "dcl-c X 1;\n/copy b\n/include /c\n/COPY '/B'"
    let document : Document := ⟨"streamfile", "/A"⟩
    let built := buildModel (.ofStreams [("/C", "dcl-c Z 3;")]) {} document text
    FetchFailed built.events "/B" ∧
      (∀ declaration ∈ built.model.declarations, ¬declaration.StandsIn "/B") ∧
      (buildModel (.ofStreams []) {} document text).model = assemble [("/A", lines text)] := by
  have failed : FetchFailed (buildModel (.ofStreams [("/C", "dcl-c Z 3;")]) {}
      ⟨"streamfile", "/A"⟩ "dcl-c X 1;\n/copy b\n/include /c\n/COPY '/B'").events "/B" :=
    ⟨.streamFile, "no stream /B", by decide +kernel⟩
  refine ⟨failed, ?_, ?_⟩
  · exact (failed_includes_erased _ _ _ _).2.2.1 "/B" failed (by decide)
  · apply (failed_includes_erased _ _ _ _).2.2.2
    rintro target _ ⟨path, kind, member⟩ _
    cases kind <;> cases member <;> rfl

/-- The lines of the document stand in front, so one that includes itself in vain still declares
what it declares. -/
theorem failed_self_include_declares :
    let built := buildModel (.ofStreams []) {} ⟨"streamfile", "/A"⟩ "/copy /a\ndcl-c X 1;"
    FetchFailed built.events "/A" ∧
      ∃ declaration ∈ built.model.declarations, declaration.StandsIn "/A" := by
  refine ⟨⟨.streamFile, "no stream /A", by decide +kernel⟩, ?_⟩
  have placed : some "/A" ∈ ((buildModel (.ofStreams []) {} ⟨"streamfile", "/A"⟩
      "/copy /a\ndcl-c X 1;").model.declarations.map fun declaration =>
        declaration.position.map Position.path) := by decide +kernel
  obtain ⟨declaration, listed, here⟩ := List.mem_map.mp placed
  exact ⟨declaration, listed, declaration, List.mem_cons_self, here⟩

end RpgSymbols
