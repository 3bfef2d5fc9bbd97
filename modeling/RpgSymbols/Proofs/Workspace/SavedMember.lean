import RpgSymbols.Proofs.Include.MemberTargets
import RpgSymbols.Proofs.Workspace.Coherence

/-!
Saving a member reaches the documents that include it. The path the member is saved under is the one
that targets naming it resolve to, so its lines are replaced where includes look for them, and there
they stay until the member is saved again. As every finished model is dropped, whichever document is
asked for is built from the new lines.
-/

namespace RpgSymbols

open Text

namespace Workspace

/-- The target has lines that are held, as it has from its first successful fetch on. -/
def HasFetched (workspace : Workspace) (document : Document) (target : String) : Prop :=
  ∃ resolved, workspace.resolveTarget document target = .ok resolved ∧
    workspace.content.holds resolved.canonicalPath = true

def Action.Saves (home path : String) : Action → Prop
  | .save document _ => canonicalPath home document = .ok path
  | _ => False

theorem moves_grow {source : ContentSource} {document : Document} {before after : Workspace}
    {events : List Event} (moves : Moves source document before events after) :
    before.content.GrowsTo after.content := by
  induction moves with
  | stay workspace events => exact .refl workspace.content
  | fetch workspace target =>
      dsimp only
      exact ContentCache.fetch_grows source workspace.content document target
  | record workspace text => exact .refl workspace.content
  | forget workspace => exact .refl workspace.content
  | drop workspace => exact .refl workspace.content
  | build workspace text =>
      rw [build_model_cache]
      exact ContentCache.after_fetches_grows source workspace.content _
  | trans _ _ earlier later => exact earlier.trans later

section Held

variable (linter : Option Linter) {home path : String} {found : List String}

/-- The lines of a path are replaced by saving it, and in no other way. -/
theorem held_perform {workspace : Workspace} {step : Step}
    (unsaved : ¬step.action.Saves home path)
    (held : workspace.content.home = home ∧ workspace.content.get? path = some found) :
    (workspace.perform linter step).1.content.home = home ∧
      (workspace.perform linter step).1.content.get? path = some found := by
  obtain ⟨rfl, lines⟩ := held
  rcases perform_cases linter workspace step with
    moves | ⟨document, text, other, _, missing, opened⟩ |
    ⟨document, text, other, save, resolves, _, saved⟩
  · have grows := moves_grow moves
    exact ⟨grows.home, grows.held path found lines⟩
  · have grows := ContentCache.put_grows missing [text]
    rw [opened]
    exact ⟨grows.home, grows.held path found lines⟩
  · have elsewhere : other ≠ path := by
      intro same
      rw [save] at unsaved
      exact unsaved (same ▸ resolves)
    rw [saved]
    refine ⟨rfl, ?_⟩
    rw [ContentCache.get_put, if_neg elsewhere]
    exact lines

theorem held_run {steps : List Step} (unsaved : ∀ step ∈ steps, ¬step.action.Saves home path)
    {workspace : Workspace}
    (held : workspace.content.home = home ∧ workspace.content.get? path = some found) :
    (workspace.run linter steps).1.content.home = home ∧
      (workspace.run linter steps).1.content.get? path = some found := by
  have keeps : ∀ step ∈ steps, ∀ (workspace : Workspace) (_ : List Event),
      (workspace.content.home = home ∧ workspace.content.get? path = some found) →
        (workspace.perform linter step).1.content.home = home ∧
          (workspace.perform linter step).1.content.get? path = some found :=
    fun step listed workspace _ => held_perform linter (unsaved step listed)
  exact run_keeps keeps workspace [] held

end Held

end Workspace

/-- A build takes the lines that are held for what its text includes. -/
theorem build_model_takes_held (source : ContentSource) {cache : ContentCache} {document : Document}
    {text target : String} {resolved : Resolved} {found : List String}
    (asked : target ∈ includeTargets (lines text))
    (resolves : cache.resolve document target = .ok resolved)
    (other : resolved.canonicalPath ≠ document.path)
    (held : cache.get? resolved.canonicalPath = some found) :
    ∃ files, (Table.keys ((document.path, lines text) :: files)).Nodup ∧
      (resolved.canonicalPath, found) ∈ files ∧
      (buildModel source cache document text).model =
        assemble ((document.path, lines text) :: files) := by
  refine ⟨includedFiles source cache document (lines text),
    files_nodup source cache document text, ?_, build_model_included source cache document text⟩
  have address : resolved ∈ includedAddresses cache document (includeTargets (lines text)) :=
    mem_included_addresses.mpr ⟨⟨target, asked, resolves⟩, other⟩
  refine List.mem_filterMap.mpr ⟨resolved, address, ?_⟩
  rw [ContentCache.available?, held]
  rfl

namespace Workspace

/-- A member is known by the path that targets naming it resolve to in the members of its storage
group. Once such a target was fetched, saving the member drops every finished model; and as long as
the member is not saved again, a document with such a target is built from the lines saved. -/
theorem saved_member_reaches_includers (linter : Option Linter) (workspace : Workspace)
    {document including : Document} {address own : MemberAddress}
    (member : document.IsMember address) (clear : ∀ part ∈ address.parts, Segment part)
    (includes : including.IsMember own)
    (group : own.group.map upper = address.group.map upper)
    (named : withoutExtension address.member ≠ "") :
    ∃ path, canonicalPath workspace.content.home document = .ok path ∧
      (∀ target, address.NamedBy target →
        (workspace.resolveTarget including target).map Resolved.canonicalPath = .ok path) ∧
      (including.path ≠ path →
        ∀ fetched, address.NamedBy fetched → workspace.HasFetched including fetched →
        ∀ source text,
          let saved := (workspace.onSave source document text).workspace
          saved.models = [] ∧
          ∀ steps : List Step,
            (∀ step ∈ steps, ¬step.action.Saves workspace.content.home path) →
            let now := (saved.run linter steps).1
            ∀ source target written, address.NamedBy target →
              target ∈ includeTargets (lines written) →
              let model := (buildModel source now.content including written).model
              (Table.get? including.path now.models = none →
                (now.getModel source including (some written)).value = some model) ∧
              ∃ files, (Table.keys ((including.path, lines written) :: files)).Nodup ∧
                (path, lines text) ∈ files ∧
                model = assemble ((including.path, lines written) :: files)) := by
  have resolves : ∀ home target, address.NamedBy target →
      resolve home including target = .ok address.included.resolved :=
    fun home target names => resolve_named includes clear group named names home
  have segment : Segment address.member := clear _ (by simp [MemberAddress.parts])
  have known := member.canonical_path workspace.content.home segment
  rw [if_neg named] at known
  refine ⟨address.included.canonical, known, ?_, ?_⟩
  · intro target names
    rw [resolveTarget, ContentCache.resolve, resolves _ target names]
    rfl
  intro other fetched names held source text saved
  have tracked : workspace.Tracks document := by
    obtain ⟨resolved, finds, lines⟩ := held
    rw [resolveTarget, ContentCache.resolve, resolves _ fetched names] at finds
    cases finds
    exact ⟨_, known, lines⟩
  obtain ⟨path, found, _, after⟩ := @on_save_tracked source workspace document text tracked
  cases known.symm.trans found
  refine ⟨congrArg Workspace.models after, ?_⟩
  intro steps unsaved now source target written directive asked model
  have put : saved.content.home = workspace.content.home ∧
      saved.content.get? address.included.canonical = some (lines text) := by
    refine ⟨congrArg (·.content.home) after, ?_⟩
    rw [congrArg Workspace.content after, ContentCache.get_put, if_pos rfl]
  have kept := (held_run linter unsaved put).2
  constructor
  · intro absent
    rw [get_model_built source absent rfl]
  · exact build_model_takes_held source asked (resolves _ target directive)
      (Ne.symm other) kept

/-- A member whose name has two dots is included by a document with a finished model, and saved. The
member is closed before the document is asked for again. -/
theorem saved_member_included_anew :
    let document : Document := ⟨"member", "/asp/lib/src/part.v1.rpgle"⟩
    let including : Document := ⟨"member", "/ASP/App/Main/x.rpgle"⟩
    let source : ContentSource := .ofFiles [] []
    let workspace : Workspace :=
      { content := ⟨"/", [("/ASP/LIB/SRC/PART.V1", ["dcl-c OLD 1;"])]⟩
        models := [("/ASP/App/Main/x.rpgle", {})] }
    let saved := (workspace.onSave source document "dcl-c NEW 2;").workspace
    let now := (saved.run none [⟨source, .closing document⟩]).1
    let written := "**FREE\n/COPY Lib/SRC,Part.V1.rpgle"
    saved.models = [] ∧
      ∃ files, ("/ASP/LIB/SRC/PART.V1", lines "dcl-c NEW 2;") ∈ files ∧
        (now.getModel source including (some written)).value =
          some (assemble ((including.path, lines written) :: files)) := by
  intro document including source workspace saved now written
  let address : MemberAddress := ⟨some "asp", "lib", "src", "part.v1.rpgle"⟩
  have member : document.IsMember address :=
    ⟨by decide +kernel, by decide +kernel, by decide +kernel⟩
  have includes : including.IsMember ⟨some "ASP", "App", "Main", "x.rpgle"⟩ :=
    ⟨by decide +kernel, by decide +kernel, by decide +kernel⟩
  have names : address.NamedBy "Lib/SRC,Part.V1.rpgle" :=
    ⟨"Lib", "SRC", "Part.V1.rpgle", by decide +kernel, by decide +kernel, by decide +kernel,
      by decide +kernel⟩
  obtain ⟨path, known, _, reaches⟩ :=
    saved_member_reaches_includers none workspace member (by decide +kernel) includes
      (by decide +kernel) (by decide +kernel)
  have spelled : canonicalPath workspace.content.home document = .ok "/ASP/LIB/SRC/PART.V1" := by
    decide +kernel
  cases Except.ok.inj (known.symm.trans spelled)
  have fetched : workspace.HasFetched including "Lib/SRC,Part.V1.rpgle" :=
    ⟨⟨"/ASP/LIB/SRC/PART.V1", .member, some ⟨some "ASP", "LIB", "SRC", "PART.V1"⟩⟩,
      by decide +kernel, by decide +kernel⟩
  have other : including.path ≠ "/ASP/LIB/SRC/PART.V1" := by decide +kernel
  obtain ⟨dropped, later⟩ := reaches other _ names fetched source "dcl-c NEW 2;"
  have unsaved : ∀ step ∈ [Step.mk source (.closing document)],
      ¬step.action.Saves workspace.content.home "/ASP/LIB/SRC/PART.V1" := by
    simp [Action.Saves]
  have asked : "Lib/SRC,Part.V1.rpgle" ∈ includeTargets (lines written) := by decide +kernel
  obtain ⟨built, files, _, listed, made⟩ := later _ unsaved source _ written names asked
  have answer := built (by decide +kernel)
  rw [made] at answer
  exact ⟨dropped, files, listed, answer⟩

end Workspace

end RpgSymbols
