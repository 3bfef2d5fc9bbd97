import RpgSymbols.Proofs.Attempt.Assembling
import RpgSymbols.Proofs.Attempt.Resolving
import RpgSymbols.Proofs.Workspace.Run

/-!
Sessions over sources that may raise anything. A target without an address, a failing source and
options that are no JSON are met where they arise, and every other access succeeds. So no event of
an editor fails, whatever the documents, the texts and the state of the session, and a linter is
the only thing that makes linting fail.
-/

namespace RpgSymbols

open Text

/-- A source that may raise any fault. -/
structure FallibleSource where
  serve : Request → Attempt String

/-- The source as the caches take it: of a fault they show the wording alone. -/
def FallibleSource.quiet (source : FallibleSource) : ContentSource where
  serve request := (source.serve request).mapError fun fault => .unavailable fault.message

abbrev FallibleLinter := String → Table Json → Option Model → Attempt (List Json)

def Linter.attempted (linter : Linter) : FallibleLinter :=
  fun text options model => .ok (linter text options model)

/-- The files found so far together with what fetching one more target gave. -/
def Discovered.join (found : Discovered) (fetched : Fetched) : Discovered :=
  let files :=
    match fetched.path with
    | none => found.files
    | some path =>
        if Table.hasKey path found.files then found.files
        else found.files ++ [(path, fetched.lines)]
  ⟨files, fetched.cache, found.events ++ fetched.events⟩

theorem Discovered.add_target_join (source : ContentSource) (document : Document)
    (found : Discovered) (target : String) :
    found.addTarget source document target =
      found.join (found.cache.fetch source document target) := by
  unfold addTarget join
  generalize found.cache.fetch source document target = fetched
  rfl

namespace Attempt

def catchUnresolvable {Value : Type} : Attempt Value → Attempt (Except Unresolvable Value)
  | .ok value => .ok (.ok value)
  | .error (.unresolvable reason) => .ok (.error reason)
  | .error fault => .error fault

/-- Asks the source for the text at an address. What was asked is known even if it failed. -/
def download (source : FallibleSource) (resolved : Resolved) : List Event × Attempt String :=
  match resolved.request with
  | .error reason => ([], .error (.unresolvable reason))
  | .ok request => ([.requested request], source.serve request)

/-- Fetches a target. Whatever its download raises is caught. -/
def fetch (source : FallibleSource) (cache : ContentCache) (document : Document)
    (target : String) : Attempt Fetched := do
  let answer ← catchUnresolvable (resolve cache.home document target)
  match answer with
  | .error reason => return ⟨none, [], cache, [.noticed (.skippedInclude target reason)]⟩
  | .ok resolved =>
      let path := resolved.canonicalPath
      match cache.get? path with
      | some held => return ⟨some path, held, cache, []⟩
      | none =>
          match download source resolved with
          | (requests, .error fault) =>
              return ⟨some path, [], cache,
                requests ++ [.noticed (.failedFetch resolved.kind path fault.message)]⟩
          | (requests, .ok text) =>
              return ⟨some path, lines text, cache.put path (lines text), requests⟩

def refresh (cache : ContentCache) (document : Document) (text : String) :
    Attempt (Bool × ContentCache × List Event) := do
  let answer ← catchUnresolvable (canonicalPath cache.home document)
  match answer with
  | .error _ => return (false, cache, [])
  | .ok path =>
      if cache.holds path then
        return (true, cache.put path (lines text), [.noticed (.refreshed path)])
      else return (false, cache, [])

def addTargets (source : FallibleSource) (document : Document) :
    Discovered → List String → Attempt Discovered
  | found, [] => .ok found
  | found, target :: rest => do
      let fetched ← fetch source found.cache document target
      addTargets source document (found.join fetched) rest

def discover (source : FallibleSource) (cache : ContentCache) (document : Document)
    (lines : List String) : Attempt Discovered := do
  let targets ← includeTargets lines.reverse
  addTargets source document ⟨[(document.path, lines)], cache, []⟩ targets

def buildModel (source : FallibleSource) (cache : ContentCache) (document : Document)
    (text : String) : Attempt Built := do
  let found ← discover source cache document (lines text)
  let model ← assemble found.files
  return ⟨model, found.cache,
    found.events ++ [.noticed (.built document.path found.files.length model.size)]⟩

section Operations

variable (source : FallibleSource) (workspace : Workspace) (document : Document)

def getModel (text : Option String) : Attempt (Reply (Option Model)) :=
  match Table.get? document.path workspace.models with
  | some model => .ok ⟨some model, workspace, []⟩
  | none =>
      match text <|> Table.get? document.path workspace.texts with
      | none => .ok ⟨none, workspace, []⟩
      | some text => do
          let built ← buildModel source workspace.content document text
          return ⟨some built.model,
            { workspace with
              content := built.cache
              models := Table.set document.path built.model workspace.models },
            built.events⟩

/-- Dropping a model that is not there is no fault. -/
def invalidate : Attempt (Reply Bool) := .ok (workspace.invalidate document)

def resolveTarget (target : String) : Attempt Resolved :=
  resolve workspace.content.home document target

def includeAt (line : String) : Attempt (Option Resolved) := do
  let found ← includeTarget line
  match found with
  | none => return none
  | some target =>
      let answer ← catchUnresolvable (resolveTarget workspace document target)
      return answer.toOption

def fetchAll (source : FallibleSource) (document : Document) :
    Workspace → List String → Attempt (Reply Unit)
  | workspace, [] => .ok ⟨(), workspace, []⟩
  | workspace, target :: rest => do
      let fetched ← fetch source workspace.content document target
      let reply ← fetchAll source document { workspace with content := fetched.cache } rest
      return ⟨(), reply.workspace, fetched.events ++ reply.events⟩

def updateIncludes (text : String) : Attempt (Reply Unit) := do
  let dropped ← invalidate workspace document
  if dropped.value then
    let targets ← includeTargets (lines text).reverse
    let fetched ← fetchAll source document dropped.workspace targets
    return ⟨(), fetched.workspace, dropped.events ++ fetched.events⟩
  else return ⟨(), dropped.workspace, dropped.events⟩

def onChange (text : String) : Attempt (Reply (Option Model)) := do
  let dropped ← invalidate (workspace.recordText document text) document
  if isFreeFormat text then
    let reply ← getModel source dropped.workspace document (some text)
    return ⟨reply.value, reply.workspace, dropped.events ++ reply.events⟩
  else return ⟨none, dropped.workspace, dropped.events⟩

/-- Forgetting a text that is not there is no fault. -/
def onClose : Attempt (Reply Unit) := do
  let forgotten := { workspace with texts := Table.remove document.path workspace.texts }
  let dropped ← invalidate forgotten document
  return ⟨(), dropped.workspace, dropped.events⟩

def onSave (text : String) : Attempt (Reply Unit) := do
  let recorded := workspace.recordText document text
  let (tracked, content, events) ← refresh recorded.content document text
  if tracked then
    return ⟨(), { recorded with content := content, models := [] },
      events ++ [.noticed (.includeSaved document.path)]⟩
  else if isFreeFormat text then
    let updated ← updateIncludes source { recorded with content := content } document text
    return ⟨(), updated.workspace, events ++ updated.events⟩
  else return ⟨(), { recorded with content := content }, events⟩

def linterPath : Attempt (Option Resolved) :=
  match linterTarget? document.scheme with
  | none => .ok none
  | some target => do
      let answer ← catchUnresolvable (resolveTarget workspace document target)
      return answer.toOption

def loadLinterOptions : Attempt (Reply Unit) :=
  match linterTarget? document.scheme with
  | none => .ok ⟨(), workspace, []⟩
  | some target => fetchAll source document workspace [target]

def onOpen (text language : String) : Attempt (Reply (Option Model)) :=
  if language = "json" then .ok ⟨none, workspace.trackLinterOptions document text, []⟩
  else if language ≠ "rpgle" then .ok ⟨none, workspace, []⟩
  else
    let recorded := workspace.recordText document text
    if isFreeFormat text then do
      let updated ← updateIncludes source recorded document text
      let loaded ← loadLinterOptions source updated.workspace document
      let reply ← getModel source loaded.workspace document (some text)
      return ⟨reply.value, reply.workspace, updated.events ++ loaded.events ++ reply.events⟩
    else .ok ⟨none, recorded, []⟩

def parseJson (text : String) : Attempt Json := (Json.parse? text).elim (.error .notJson) .ok

def linterOptions : Attempt (Table Json × List Event) := do
  let found ← linterPath workspace document
  match found with
  | none => return ([], [])
  | some resolved =>
      let text := trim (join "" ((workspace.content.get? resolved.canonicalPath).getD []))
      if text.isEmpty then return ([], [])
      match parseJson text with
      | .ok (.obj fields) => return (fields, [])
      | .ok _ => return ([], [])
      | .error .notJson => return ([], [.noticed (.invalidLinterOptions resolved.canonicalPath)])
      | .error fault => .error fault

def lint (linter : Option FallibleLinter) (text : String) (indent : Int) :
    Attempt (Reply (List Json)) :=
  match linter with
  | none => .ok ⟨[], workspace, []⟩
  | some check =>
      if isFreeFormat text then do
        let (own, events) ← linterOptions workspace document
        let options := own.foldl (fun table field => Table.set field.1 field.2 table)
          [("indent", Json.int indent)]
        let reply ← getModel source workspace document (some text)
        let found ← check text options reply.value
        return ⟨found, reply.workspace, events ++ reply.events⟩
      else .ok ⟨[], workspace, []⟩

end Operations

theorem catch_unresolvable {Value : Type} (answer : Except Unresolvable Value) :
    catchUnresolvable (answer.mapError .unresolvable) = .ok answer := by
  cases answer with
  | error reason => rfl
  | ok value => rfl

/-- A failed fetch shows the wording of the fault, as it would that of a source's own failure. -/
theorem fetch_ok (source : FallibleSource) (cache : ContentCache) (document : Document)
    (target : String) :
    fetch source cache document target = .ok (cache.fetch source.quiet document target) := by
  unfold fetch ContentCache.fetch ContentCache.resolve
  rw [resolve_ok, catch_unresolvable, bind_ok]
  cases RpgSymbols.resolve cache.home document target with
  | error reason => rfl
  | ok resolved =>
      dsimp only
      cases cache.get? resolved.canonicalPath with
      | some held => rfl
      | none =>
          unfold download
          cases resolved.request with
          | error reason => rfl
          | ok request =>
              simp only [FallibleSource.quiet]
              cases source.serve request with
              | error fault => rfl
              | ok text => rfl

theorem refresh_ok (cache : ContentCache) (document : Document) (text : String) :
    refresh cache document text = .ok (cache.refresh document text) := by
  unfold refresh ContentCache.refresh
  rw [canonical_path_ok, catch_unresolvable, bind_ok]
  cases RpgSymbols.canonicalPath cache.home document with
  | error reason => rfl
  | ok path => simp only [pure_ok, apply_ite Except.ok]

theorem add_targets_ok (source : FallibleSource) (document : Document) (found : Discovered)
    (targets : List String) :
    addTargets source document found targets =
      .ok (targets.foldl (Discovered.addTarget source.quiet document) found) := by
  induction targets generalizing found with
  | nil => rfl
  | cons target rest induction =>
      rw [addTargets, fetch_ok, bind_ok, induction, List.foldl_cons, Discovered.add_target_join]

theorem discover_ok (source : FallibleSource) (cache : ContentCache) (document : Document)
    (lines : List String) :
    discover source cache document lines =
      .ok (RpgSymbols.discover source.quiet cache document lines) := by
  rw [discover, include_targets_ok, bind_ok, add_targets_ok, RpgSymbols.discover,
    RpgSymbols.includeTargets]

theorem build_model_ok (source : FallibleSource) (cache : ContentCache) (document : Document)
    (text : String) :
    buildModel source cache document text =
      .ok (RpgSymbols.buildModel source.quiet cache document text) := by
  rw [buildModel, discover_ok, bind_ok, assemble_ok, bind_ok, pure_ok, RpgSymbols.buildModel]

section Operations

variable (source : FallibleSource) (workspace : Workspace) (document : Document)

theorem get_model_ok (text : Option String) :
    getModel source workspace document text =
      .ok (workspace.getModel source.quiet document text) := by
  unfold getModel Workspace.getModel
  cases Table.get? document.path workspace.models with
  | some model => rfl
  | none =>
      cases text <|> Table.get? document.path workspace.texts with
      | none => rfl
      | some text =>
          simp only [build_model_ok, bind_ok, pure_ok]

theorem resolve_target_ok (target : String) :
    resolveTarget workspace document target =
      (workspace.resolveTarget document target).mapError .unresolvable :=
  resolve_ok workspace.content.home document target

theorem include_at_ok (line : String) :
    includeAt workspace document line = .ok (workspace.includeAt document line) := by
  unfold includeAt Workspace.includeAt
  rw [include_target_ok, bind_ok]
  cases includeTarget? line with
  | none => rfl
  | some target =>
      simp only [resolve_target_ok, catch_unresolvable, bind_ok, pure_ok]

theorem fetch_all_ok (targets : List String) :
    fetchAll source document workspace targets =
      .ok (Workspace.fetchAll source.quiet document workspace targets) := by
  induction targets generalizing workspace with
  | nil => rfl
  | cons target rest induction =>
      rw [fetchAll, fetch_ok, bind_ok, induction, bind_ok, pure_ok, Workspace.fetchAll]

theorem update_includes_ok (text : String) :
    updateIncludes source workspace document text =
      .ok (workspace.updateIncludes source.quiet document text) := by
  unfold updateIncludes Workspace.updateIncludes invalidate RpgSymbols.includeTargets
  simp only [bind_ok, pure_ok, include_targets_ok, fetch_all_ok, apply_ite Except.ok]

theorem on_change_ok (text : String) :
    onChange source workspace document text =
      .ok (workspace.onChange source.quiet document text) := by
  unfold onChange Workspace.onChange invalidate
  simp only [bind_ok, pure_ok, get_model_ok, apply_ite Except.ok]

theorem on_close_ok : onClose workspace document = .ok (workspace.onClose document) := rfl

theorem on_save_ok (text : String) :
    onSave source workspace document text =
      .ok (workspace.onSave source.quiet document text) := by
  unfold onSave Workspace.onSave
  simp only [bind_ok, pure_ok, refresh_ok, update_includes_ok, apply_ite Except.ok]

theorem linter_path_ok :
    linterPath workspace document = .ok (workspace.linterPath? document) := by
  unfold linterPath Workspace.linterPath?
  cases linterTarget? document.scheme with
  | none => rfl
  | some target =>
      simp only [resolve_target_ok, catch_unresolvable, bind_ok, pure_ok, Option.bind_eq_bind,
        Option.bind_some]

theorem load_linter_options_ok :
    loadLinterOptions source workspace document =
      .ok (workspace.loadLinterOptions source.quiet document) := by
  unfold loadLinterOptions Workspace.loadLinterOptions
  cases linterTarget? document.scheme with
  | none => rfl
  | some target => exact fetch_all_ok source workspace document [target]

theorem on_open_ok (text language : String) :
    onOpen source workspace document text language =
      .ok (workspace.onOpen source.quiet document text language) := by
  unfold onOpen Workspace.onOpen
  simp only [bind_ok, pure_ok, update_includes_ok, load_linter_options_ok, get_model_ok,
    apply_ite Except.ok]

theorem linter_options_ok :
    linterOptions workspace document = .ok (workspace.linterOptions document) := by
  unfold linterOptions Workspace.linterOptions
  rw [linter_path_ok, bind_ok]
  cases workspace.linterPath? document with
  | none => rfl
  | some resolved =>
      unfold Workspace.parseLinterOptions parseJson
      dsimp only
      generalize trim (join "" ((workspace.content.get? resolved.canonicalPath).getD [])) = text
      split
      · rfl
      · rcases Json.parse? text with _ | value
        · rfl
        · cases value <;> rfl

theorem lint_ok (linter : Option Linter) (text : String) (indent : Int) :
    lint source workspace document (linter.map Linter.attempted) text indent =
      .ok (workspace.lint source.quiet linter document text indent) := by
  unfold lint Workspace.lint
  cases linter with
  | none => rfl
  | some check =>
      simp only [Option.map_some, Linter.attempted, linter_options_ok, get_model_ok, bind_ok,
        pure_ok, apply_ite Except.ok]

/-- A fault of linting is one that the linter raised on the text. -/
theorem lint_cases (linter : Option FallibleLinter) (text : String) (indent : Int) :
    (∃ reply, lint source workspace document linter text indent = .ok reply) ∨
      ∃ check options model fault, linter = some check ∧ check text options model = .error fault ∧
        lint source workspace document linter text indent = .error fault := by
  cases linter with
  | none => exact .inl ⟨_, rfl⟩
  | some check =>
      unfold lint
      simp only [linter_options_ok, get_model_ok, bind_ok]
      by_cases free : isFreeFormat text = true
      · rw [if_pos free]
        generalize (workspace.linterOptions document).1.foldl
          (fun table field => Table.set field.1 field.2 table) [("indent", Json.int indent)] =
            options
        cases found : check text options
            (workspace.getModel source.quiet document (some text)).value with
        | ok value => exact .inl ⟨_, rfl⟩
        | error fault => exact .inr ⟨check, options, _, fault, rfl, found, rfl⟩
      · rw [if_neg free]
        exact .inl ⟨_, rfl⟩

end Operations

/-! Runs: every step may find another source. -/

structure FallibleStep where
  source : FallibleSource
  action : Workspace.Action

def FallibleStep.quiet (step : FallibleStep) : Workspace.Step := ⟨step.source.quiet, step.action⟩

def perform (linter : Option FallibleLinter) (workspace : Workspace) (step : FallibleStep) :
    Attempt (Workspace × List Event) :=
  let after {Value : Type} (answer : Attempt (Reply Value)) : Attempt (Workspace × List Event) :=
    answer.map fun reply => (reply.workspace, reply.events)
  match step.action with
  | .request document text => after (getModel step.source workspace document text)
  | .invalidate document => after (invalidate workspace document)
  | .change document text => after (onChange step.source workspace document text)
  | .opening document text language => after (onOpen step.source workspace document text language)
  | .closing document => after (onClose workspace document)
  | .save document text => after (onSave step.source workspace document text)
  | .updateIncludes document text => after (updateIncludes step.source workspace document text)
  | .loadLinterOptions document => after (loadLinterOptions step.source workspace document)
  | .lint document text indent => after (lint step.source workspace document linter text indent)

def run (linter : Option FallibleLinter) :
    Workspace → List FallibleStep → Attempt (Workspace × List Event)
  | workspace, [] => .ok (workspace, [])
  | workspace, step :: rest => do
      let now ← perform linter workspace step
      let later ← run linter now.1 rest
      return (later.1, now.2 ++ later.2)

theorem perform_ok (linter : Option Linter) (workspace : Workspace) (step : FallibleStep) :
    perform (linter.map Linter.attempted) workspace step =
      .ok (workspace.perform linter step.quiet) := by
  have after {Value : Type} {answer : Attempt (Reply Value)} {reply : Reply Value}
      (same : answer = .ok reply) :
      answer.map (fun reply => (reply.workspace, reply.events)) =
        .ok (reply.workspace, reply.events) := by
    rw [same]
    rfl
  obtain ⟨source, action⟩ := step
  unfold perform Workspace.perform FallibleStep.quiet
  cases action with
  | request document text => exact after (get_model_ok source workspace document text)
  | invalidate document => rfl
  | change document text => exact after (on_change_ok source workspace document text)
  | opening document text language =>
      exact after (on_open_ok source workspace document text language)
  | closing document => exact after (on_close_ok workspace document)
  | save document text => exact after (on_save_ok source workspace document text)
  | updateIncludes document text =>
      exact after (update_includes_ok source workspace document text)
  | loadLinterOptions document => exact after (load_linter_options_ok source workspace document)
  | lint document text indent =>
      exact after (lint_ok source workspace document linter text indent)

theorem run_ok (linter : Option Linter) (workspace : Workspace) (steps : List FallibleStep) :
    run (linter.map Linter.attempted) workspace steps =
      .ok (workspace.run linter (steps.map FallibleStep.quiet)) := by
  induction steps generalizing workspace with
  | nil => rfl
  | cons step rest induction =>
      rw [run, perform_ok, bind_ok, induction, bind_ok, pure_ok, List.map_cons, Workspace.run]

end Attempt

/-- No operation of a session fails, in whatever state it is and whatever the source raises.
Resolving a target fails only for the lack of an address, and linting only if the linter does. -/
theorem editor_events_never_fail (source : FallibleSource) (workspace : Workspace)
    (document : Document) :
    (∀ text, Attempt.getModel source workspace document text =
      .ok (workspace.getModel source.quiet document text)) ∧
    Attempt.invalidate workspace document = .ok (workspace.invalidate document) ∧
    (∀ line, Attempt.includeAt workspace document line =
      .ok (workspace.includeAt document line)) ∧
    (∀ text, Attempt.onChange source workspace document text =
      .ok (workspace.onChange source.quiet document text)) ∧
    (∀ text language, Attempt.onOpen source workspace document text language =
      .ok (workspace.onOpen source.quiet document text language)) ∧
    Attempt.onClose workspace document = .ok (workspace.onClose document) ∧
    (∀ text, Attempt.onSave source workspace document text =
      .ok (workspace.onSave source.quiet document text)) ∧
    (∀ text, Attempt.updateIncludes source workspace document text =
      .ok (workspace.updateIncludes source.quiet document text)) ∧
    Attempt.linterPath workspace document = .ok (workspace.linterPath? document) ∧
    Attempt.loadLinterOptions source workspace document =
      .ok (workspace.loadLinterOptions source.quiet document) ∧
    Attempt.linterOptions workspace document = .ok (workspace.linterOptions document) ∧
    (∀ target, Attempt.resolveTarget workspace document target =
      (workspace.resolveTarget document target).mapError .unresolvable) ∧
    (∀ linter text indent,
      (∃ reply, Attempt.lint source workspace document linter text indent = .ok reply) ∨
      ∃ check options model fault, linter = some check ∧ check text options model = .error fault ∧
        Attempt.lint source workspace document linter text indent = .error fault) ∧
    ∀ (linter : Option Linter) (steps : List Attempt.FallibleStep),
      Attempt.run (linter.map Linter.attempted) workspace steps =
        .ok (workspace.run linter (steps.map Attempt.FallibleStep.quiet)) := by
  refine ⟨Attempt.get_model_ok source workspace document, rfl,
    Attempt.include_at_ok workspace document, Attempt.on_change_ok source workspace document,
    Attempt.on_open_ok source workspace document, Attempt.on_close_ok workspace document,
    Attempt.on_save_ok source workspace document,
    Attempt.update_includes_ok source workspace document,
    Attempt.linter_path_ok workspace document,
    Attempt.load_linter_options_ok source workspace document,
    Attempt.linter_options_ok workspace document,
    Attempt.resolve_target_ok workspace document,
    Attempt.lint_cases source workspace document, ?_⟩
  exact fun linter steps => Attempt.run_ok linter workspace steps

end RpgSymbols
