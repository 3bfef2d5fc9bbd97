import RpgSymbols.Proofs.Cache.FetchSequence
import RpgSymbols.Proofs.Include.Discovery

/-!
What a build takes from the content cache and what it leaves there. It fetches the targets of the
document and nothing else, the lines it used are held afterwards, and its model depends on the
cache only through what the cache answers to the document. Of the source it depends on the files
that have instructions.
-/

namespace RpgSymbols

open Text

def includeCalls (document : Document) (lines : List String) : List (Document × String) :=
  (includeTargets lines).map (document, ·)

theorem mem_include_calls {document : Document} {lines : List String}
    {call : Document × String} (listed : call ∈ includeCalls document lines) :
    call.1 = document := by
  obtain ⟨target, _, rfl⟩ := List.mem_map.mp listed
  rfl

theorem discovered_cache (source : ContentSource) (document : Document) (targets : List String)
    (found : Discovered) :
    (targets.foldl (Discovered.addTarget source document) found).cache =
      found.cache.afterFetches source (targets.map (document, ·)) := by
  induction targets generalizing found with
  | nil => rfl
  | cons target rest induction =>
      rw [List.foldl_cons, induction, List.map_cons, ContentCache.after_fetches_cons,
        Discovered.addTarget]

section Build

variable (source : ContentSource) (cache : ContentCache) (document : Document) (text : String)

theorem build_model_cache :
    (buildModel source cache document text).cache =
      cache.afterFetches source (includeCalls document (lines text)) := by
  unfold buildModel discover includeCalls
  generalize lines text = own
  exact discovered_cache source document (includeTargets own) ⟨[(document.path, own)], cache, []⟩

/-- The model begins with the lines of the document. -/
theorem build_model_own :
    ∃ files, (Table.keys ((document.path, lines text) :: files)).Nodup ∧
      (buildModel source cache document text).model =
        assemble ((document.path, lines text) :: files) :=
  ⟨includedFiles source cache document (lines text), files_nodup source cache document text,
    build_model_included source cache document text⟩

end Build

theorem included_addresses_home {first second : ContentCache} (home : first.home = second.home)
    (document : Document) (targets : List String) :
    includedAddresses first document targets = includedAddresses second document targets := by
  have same : first.address? document = second.address? document := by
    funext target
    rw [ContentCache.address?, ContentCache.address?, ContentCache.resolve,
      ContentCache.resolve, home]
  rw [includedAddresses, includedAddresses, same]

/-- Caches that answer a document alike give it the same model. -/
theorem build_model_alike {source : ContentSource} {document : Document}
    {first second : ContentCache} (alike : first.AnswersAlike source document second)
    (text : String) :
    (buildModel source second document text).model =
      (buildModel source first document text).model := by
  have files : ∀ own, includedFiles source second document own =
      includedFiles source first document own := by
    intro own
    rw [includedFiles, includedFiles, included_addresses_home alike.home]
    apply List.filterMap_congr
    intro resolved listed
    obtain ⟨⟨target, _, resolves⟩, _⟩ := mem_included_addresses.mp listed
    rw [alike.lines target resolved resolves]
  rw [build_model_included, build_model_included, files]

/-! Sources that serve the same, but for files without instructions. -/

section Served

variable {one other : ContentSource}

theorem build_model_served {cache : ContentCache} {document : Document}
    (alike : ∀ target resolved, cache.resolve document target = .ok resolved →
      one.served? resolved = other.served? resolved ∨
        Silent ((one.served? resolved).getD []) ∧ Silent ((other.served? resolved).getD []))
    (text : String) :
    (buildModel one cache document text).model = (buildModel other cache document text).model := by
  have files : withInstructions (includedFiles one cache document (lines text)) =
      withInstructions (includedFiles other cache document (lines text)) := by
    rw [includedFiles, includedFiles, ← with_lines_only, ← with_lines_only]
    apply with_instructions_alike
    intro resolved listed
    obtain ⟨⟨target, _, resolves⟩, _⟩ := mem_included_addresses.mp listed
    rw [ContentCache.available?, ContentCache.available?]
    cases cache.get? resolved.canonicalPath with
    | some held => exact .inl rfl
    | none =>
        rw [Option.none_or, Option.none_or]
        exact (alike target resolved resolves).imp_left (congrArg (Option.getD · []))
  rw [build_model_included, build_model_included]
  exact assemble_alike files _

/-- A stream document asks its source for nothing but stream files. -/
theorem model_of_streams
    (kept : ∀ path text, one.serve (.stream path) = .ok text → other.serve (.stream path) = .ok text)
    (added : ∀ path text, other.serve (.stream path) = .ok text →
      one.serve (.stream path) = .ok text ∨ Silent (lines text))
    (cache : ContentCache) (path text : String) :
    (buildModel one cache ⟨Addressing.streamFile.name, path⟩ text).model =
      (buildModel other cache ⟨Addressing.streamFile.name, path⟩ text).model := by
  apply build_model_served
  intro target resolved resolves
  have kind : some Addressing.streamFile = some resolved.kind := (resolve_cases resolves).1
  have request : resolved.request = .ok (.stream resolved.canonicalPath) := by
    rw [Resolved.request, ← Option.some.inj kind]
  simp only [ContentSource.served?, request]
  cases left : one.serve (.stream resolved.canonicalPath) with
  | ok text =>
      rw [kept _ text left]
      exact .inl rfl
  | error reason =>
      cases right : other.serve (.stream resolved.canonicalPath) with
      | error _ => exact .inl rfl
      | ok text =>
          have silent : Silent (lines text) := by
            rcases added _ text right with before | silent
            · rw [left] at before
              cases before
            · exact silent
          exact .inr ⟨silent_nil, silent⟩

end Served

end RpgSymbols
