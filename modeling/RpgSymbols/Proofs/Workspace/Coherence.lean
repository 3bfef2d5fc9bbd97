import RpgSymbols.Proofs.Workspace.Run

/-!
Finished models agree with the content cache. A model is made from lines that the cache holds when
the model is finished. What is held stays as it is until a tracked file is saved, and that drops
every model. So whatever was asked of a session, the lines that a finished model took from an
included file are those held for the file now.
-/

namespace RpgSymbols

open Text

structure ContentCache.GrowsTo (before after : ContentCache) : Prop where
  home : after.home = before.home
  held : ∀ path lines, before.get? path = some lines → after.get? path = some lines

namespace ContentCache

theorem GrowsTo.refl (cache : ContentCache) : cache.GrowsTo cache :=
  ⟨rfl, fun _ _ held => held⟩

theorem GrowsTo.trans {first second third : ContentCache} (left : first.GrowsTo second)
    (right : second.GrowsTo third) : first.GrowsTo third :=
  ⟨right.home.trans left.home, fun path lines found =>
    right.held path lines (left.held path lines found)⟩

theorem after_fetches_grows (source : ContentSource) (cache : ContentCache)
    (calls : List (Document × String)) : cache.GrowsTo (cache.afterFetches source calls) := by
  refine ⟨home_after_fetches source cache calls, ?_⟩
  intro path lines held
  rw [get_after_fetches, held, Option.some_or]

theorem fetch_grows (source : ContentSource) (cache : ContentCache) (document : Document)
    (target : String) : cache.GrowsTo (cache.fetch source document target).cache := by
  refine ⟨home_fetch source cache document target, ?_⟩
  intro path lines held
  rw [get_fetch_served source cache (document, target), held, Option.some_or]

theorem put_grows {cache : ContentCache} {path : String} (missing : cache.get? path = none)
    (lines : List String) : cache.GrowsTo (cache.put path lines) := by
  refine ⟨rfl, ?_⟩
  intro other held found
  have apart : path ≠ other := by
    rintro rfl
    rw [missing] at found
    cases found
  rw [get_put, if_neg apart]
  exact found

end ContentCache

namespace Workspace

/-- What a model is made from: the text of its document and a file for each path that the text
includes. Such a file has the lines that are held for it; or it has none, and the log says that it
could not be fetched. -/
structure MadeFrom (content : ContentCache) (log : List Event) (document : Document)
    (text : String) (includes : Table (List String)) (model : Model) : Prop where
  assembled : model = assemble ((document.path, lines text) :: includes)
  paths : Table.keys includes =
    (includedAddresses content document (includeTargets (lines text))).map Resolved.canonicalPath
  held : ∀ file ∈ includes,
    content.get? file.1 = some file.2 ∨ file.2 = [] ∧ FetchFailed log file.1

/-- Each finished model is made from lines that are held now. -/
def Coherent (workspace : Workspace) (log : List Event) : Prop :=
  ∀ identity model, Table.get? identity workspace.models = some model →
    ∃ document text includes, document.path = identity ∧
      MadeFrom workspace.content log document text includes model

section MadeFrom

variable {document : Document} {text : String} {includes : Table (List String)} {model : Model}
  {before after : ContentCache} {log : List Event}

theorem MadeFrom.grows (made : MadeFrom before log document text includes model)
    (grows : before.GrowsTo after) (more : List Event) :
    MadeFrom after (log ++ more) document text includes model := by
  refine ⟨made.assembled, ?_, ?_⟩
  · rw [made.paths, included_addresses_home grows.home]
  · intro file listed
    rcases made.held file listed with held | ⟨nothing, failed⟩
    · exact .inl (grows.held _ _ held)
    · exact .inr ⟨nothing, (fetch_failed_append _ _ _).mpr (.inl failed)⟩

/-- The files that a model is made from are a mapping: no path stands twice. -/
theorem MadeFrom.nodup (made : MadeFrom before log document text includes model) :
    (Table.keys ((document.path, lines text) :: includes)).Nodup := by
  have paths := made.paths
  rw [Table.keys] at paths
  rw [Table.keys, List.map_cons, List.nodup_cons, paths]
  refine ⟨?_, included_paths_nodup _ _ _⟩
  intro listed
  obtain ⟨resolved, member, same⟩ := List.mem_map.mp listed
  exact (mem_included_addresses.mp member).2 same

end MadeFrom

/-- A model is made from what is held when it is finished. -/
theorem made_from_build (source : ContentSource) (cache : ContentCache) (document : Document)
    (text : String) (log : List Event) :
    ∃ includes, MadeFrom (buildModel source cache document text).cache
      (log ++ (buildModel source cache document text).events) document text includes
      (buildModel source cache document text).model := by
  have found := found_discover source cache document (lines text) (includeTargets (lines text))
  have home : (buildModel source cache document text).cache.home = cache.home := by
    rw [build_model_cache, ContentCache.home_after_fetches]
  refine ⟨(includedAddresses cache document (includeTargets (lines text))).map fun resolved =>
    (resolved.canonicalPath, (cache.available? source resolved).getD []), ?_, ?_, ?_⟩
  · rw [← found.files, buildModel, discover]
  · rw [included_addresses_home home, Table.keys, List.map_map]
    exact List.map_congr_left fun resolved _ => rfl
  · intro file listed
    obtain ⟨resolved, address, rfl⟩ := List.mem_map.mp listed
    obtain ⟨⟨target, asked, resolves⟩, _⟩ := mem_included_addresses.mp address
    cases available : cache.available? source resolved with
    | none =>
        have failed := (build_model_failures source cache document text _).mpr
          ⟨target, asked, resolved, resolves, rfl, available⟩
        exact .inr ⟨rfl, (fetch_failed_append _ _ _).mpr (.inr failed)⟩
    | some found =>
        have scheme : ∀ call ∈ includeCalls document (lines text),
            call.1.scheme = document.scheme := by
          intro call listed
          rw [mem_include_calls listed]
        have call : (document, target) ∈ includeCalls document (lines text) :=
          List.mem_map_of_mem asked
        left
        rw [build_model_cache, ContentCache.get_of_asked cache _ scheme call resolves, available]
        rfl

theorem coherent_start (home : String) : Coherent (start home) [] := by
  intro identity model cached
  cases cached

section Steps

variable {workspace : Workspace} {log : List Event}

/-- Models that stay finished remain coherent while the cache grows. -/
theorem Coherent.grows (coherent : Coherent workspace log) {after : Workspace}
    (content : workspace.content.GrowsTo after.content)
    (models : ∀ identity model, Table.get? identity after.models = some model →
      Table.get? identity workspace.models = some model)
    (more : List Event) : Coherent after (log ++ more) := by
  intro identity model cached
  obtain ⟨document, text, includes, same, made⟩ :=
    coherent identity model (models identity model cached)
  exact ⟨document, text, includes, same, made.grows content more⟩

theorem coherent_build (coherent : Coherent workspace log) (source : ContentSource)
    (document : Document) (text : String) :
    Coherent
      { workspace with
        content := (buildModel source workspace.content document text).cache
        models := Table.set document.path
          (buildModel source workspace.content document text).model workspace.models }
      (log ++ (buildModel source workspace.content document text).events) := by
  have grows : workspace.content.GrowsTo
      (buildModel source workspace.content document text).cache := by
    rw [build_model_cache]
    exact ContentCache.after_fetches_grows source workspace.content _
  obtain ⟨includes, made⟩ := made_from_build source workspace.content document text log
  intro identity model cached
  dsimp only at cached ⊢
  rw [Table.get_set] at cached
  split at cached
  · rename_i same
    rw [← Option.some.inj cached]
    exact ⟨document, text, includes, same, made⟩
  · obtain ⟨other, own, files, same, before⟩ := coherent identity model cached
    exact ⟨other, own, files, same, before.grows grows _⟩

end Steps

theorem coherent_moves {source : ContentSource} {document : Document} {before after : Workspace}
    {events : List Event} (moves : Moves source document before events after) (log : List Event)
    (coherent : Coherent before log) : Coherent after (log ++ events) := by
  induction moves generalizing log with
  | stay workspace events =>
      exact coherent.grows (.refl workspace.content) (fun _ _ cached => cached) events
  | fetch workspace target =>
      refine coherent.grows ?_ ?_ _
      · dsimp only
        exact ContentCache.fetch_grows source workspace.content document target
      · exact fun _ _ cached => cached
  | record workspace text =>
      exact coherent.grows (.refl workspace.content) (fun _ _ cached => cached) []
  | forget workspace =>
      exact coherent.grows (.refl workspace.content) (fun _ _ cached => cached) []
  | drop workspace =>
      refine coherent.grows ?_ ?_ _
      · exact .refl workspace.content
      · intro identity model cached
        rw [get_invalidate] at cached
        split at cached
        · cases cached
        · exact cached
  | build workspace text => exact coherent_build coherent source document text
  | trans first second earlier later =>
      rw [← List.append_assoc]
      exact later _ (earlier log coherent)

theorem coherent_perform (linter : Option Linter) (step : Step) (workspace : Workspace)
    (log : List Event) (coherent : Coherent workspace log) :
    Coherent (workspace.perform linter step).1 (log ++ (workspace.perform linter step).2) := by
  rcases perform_cases linter workspace step with
    moves | ⟨document, text, path, _, untracked, opened⟩ | ⟨document, text, path, _, _, _, saved⟩
  · exact coherent_moves moves log coherent
  · rw [opened]
    refine coherent.grows ?_ ?_ _
    · exact ContentCache.put_grows untracked [text]
    · exact fun _ _ cached => cached
  · -- The lines of a file are replaced here and nowhere else, and no model is left.
    rw [saved]
    intro identity model cached
    cases cached

/-- Whatever was asked of a session and whatever the sources answered, each finished model is the
one of a text of its document and of the files that the text includes, with the lines that the
cache holds for them now. An included file without such lines could not be fetched. -/
theorem finished_models_coherent (linter : Option Linter) (home : String) (steps : List Step)
    (identity : String) (model : Model)
    (cached : Table.get? identity ((start home).run linter steps).1.models = some model) :
    ∃ document text includes, document.path = identity ∧
      (Table.keys ((document.path, lines text) :: includes)).Nodup ∧
      MadeFrom ((start home).run linter steps).1.content ((start home).run linter steps).2
        document text includes model := by
  have keeps : ∀ step ∈ steps, ∀ workspace log, Coherent workspace log →
      Coherent (workspace.perform linter step).1 (log ++ (workspace.perform linter step).2) :=
    fun step _ => coherent_perform linter step
  have coherent := run_keeps keeps (start home) [] (coherent_start home)
  obtain ⟨document, text, includes, same, made⟩ := coherent identity model cached
  rw [List.nil_append] at made
  exact ⟨document, text, includes, same, made.nodup, made⟩

/-- The file `/B` is included and then saved, and `/C` cannot be fetched. The model that is built
afterwards takes the saved lines. -/
theorem saved_include_coherent :
    let document : Document := ⟨"streamfile", "/A"⟩
    let steps : List Step :=
      [⟨.ofStreams [("/B", "dcl-c OLD 1;")], .change document "**FREE\n/copy b\n/copy c"⟩,
        ⟨.ofStreams [], .save ⟨"streamfile", "/b"⟩ "dcl-c NEW 2;"⟩,
        ⟨.ofStreams [], .request document none⟩]
    let after := (start "/").run none steps
    ∃ model, Table.get? "/A" after.1.models = some model ∧
      model.constants.map Declaration.name = ["NEW"] ∧
      ∃ document text includes, document.path = "/A" ∧
        (Table.keys ((document.path, lines text) :: includes)).Nodup ∧
        MadeFrom after.1.content after.2 document text includes model := by
  intro document steps after
  have cached : (Table.get? "/A" after.1.models).map (fun model =>
      model.constants.map Declaration.name) = some ["NEW"] := by decide +kernel
  obtain ⟨model, found, names⟩ := Option.map_eq_some_iff.mp cached
  exact ⟨model, found, names, finished_models_coherent none "/" steps "/A" model found⟩

end Workspace

end RpgSymbols
