import RpgSymbols.Proofs.Include.Building
import RpgSymbols.Workspace.Lint

/-!
Runs of a session. An action is anything an editor may ask for, on any document, and every step may
find another source. Nearly all actions are made of a few moves that concern their own document
alone. Only an opened options file and a saved file that is tracked bring lines into the content
cache that were not fetched, and the latter drops all models.
-/

namespace RpgSymbols

open Text

theorem Table.get_remove {Value : Type} (key name : String) (table : Table Value) :
    Table.get? name (Table.remove key table) =
      if key = name then none else Table.get? name table := by
  induction table with
  | nil => simp [Table.remove, Table.get?]
  | cons entry rest induction =>
      obtain ⟨first, value⟩ := entry
      rw [Table.remove] at induction
      by_cases removed : first = key
      · rw [Table.remove, List.filter_cons_of_neg (by simp [removed]), induction, removed,
          Table.get?]
        split <;> rfl
      · rw [Table.remove, List.filter_cons_of_pos (by simp [removed]), Table.get?, induction,
          Table.get?]
        by_cases asked : first = name
        · rw [if_pos asked, if_neg (by rw [← asked]; exact Ne.symm removed), if_pos asked]
        · rw [if_neg asked, if_neg asked]

namespace Workspace

inductive Action where
  | request (document : Document) (text : Option String)
  | invalidate (document : Document)
  | change (document : Document) (text : String)
  | opening (document : Document) (text language : String)
  | closing (document : Document)
  | save (document : Document) (text : String)
  | updateIncludes (document : Document) (text : String)
  | loadLinterOptions (document : Document)
  | lint (document : Document) (text : String) (indent : Int)

def Action.document : Action → Document
  | .request document _ | .invalidate document | .change document _ | .opening document _ _
  | .closing document | .save document _ | .updateIncludes document _
  | .loadLinterOptions document | .lint document _ _ => document

/-- An action, and the source it finds. -/
structure Step where
  source : ContentSource
  action : Action

def start (home : String) : Workspace := { content := { home := home } }

/-- The session after an action, and what happened; the answer itself is left out. -/
def perform (linter : Option Linter) (workspace : Workspace) (step : Step) :
    Workspace × List Event :=
  let after {Value : Type} (reply : Reply Value) := (reply.workspace, reply.events)
  match step.action with
  | .request document text => after (workspace.getModel step.source document text)
  | .invalidate document => after (workspace.invalidate document)
  | .change document text => after (workspace.onChange step.source document text)
  | .opening document text language => after (workspace.onOpen step.source document text language)
  | .closing document => after (workspace.onClose document)
  | .save document text => after (workspace.onSave step.source document text)
  | .updateIncludes document text => after (workspace.updateIncludes step.source document text)
  | .loadLinterOptions document => after (workspace.loadLinterOptions step.source document)
  | .lint document text indent => after (workspace.lint step.source linter document text indent)

def run (linter : Option Linter) : Workspace → List Step → Workspace × List Event
  | workspace, [] => (workspace, [])
  | workspace, step :: rest =>
      let now := workspace.perform linter step
      let later := run linter now.1 rest
      (later.1, now.2 ++ later.2)

/-- What each step keeps, the run keeps; the log grows along with the session. -/
theorem run_keeps {linter : Option Linter} {Kept : Workspace → List Event → Prop}
    {steps : List Step}
    (keeps : ∀ step ∈ steps, ∀ workspace log, Kept workspace log →
      Kept (workspace.perform linter step).1 (log ++ (workspace.perform linter step).2))
    (workspace : Workspace) (log : List Event) (before : Kept workspace log) :
    Kept (workspace.run linter steps).1 (log ++ (workspace.run linter steps).2) := by
  induction steps generalizing workspace log with
  | nil =>
      rw [run, List.append_nil]
      exact before
  | cons step rest induction =>
      have now := keeps step List.mem_cons_self workspace log before
      have later := induction (fun other listed => keeps other (List.mem_cons_of_mem _ listed))
        (workspace.perform linter step).1 (log ++ (workspace.perform linter step).2) now
      rw [run, ← List.append_assoc]
      exact later

theorem run_append (linter : Option Linter) (workspace : Workspace) (first second : List Step) :
    (workspace.run linter (first ++ second)).1 =
      ((workspace.run linter first).1.run linter second).1 := by
  induction first generalizing workspace with
  | nil => rfl
  | cons step rest induction =>
      rw [List.cons_append, run, run]
      exact induction (workspace.perform linter step).1

theorem get_invalidate (workspace : Workspace) (document : Document) (path : String) :
    Table.get? path (workspace.invalidate document).workspace.models =
      if document.path = path then none else Table.get? path workspace.models := by
  unfold invalidate ModelCache.invalidate
  by_cases finished : Table.hasKey document.path workspace.models = true
  · rw [if_pos finished]
    exact Table.get_remove document.path path workspace.models
  · rw [if_neg finished]
    by_cases same : document.path = path
    · rw [if_pos same, ← same]
      rw [Table.hasKey, Option.not_isSome_iff_eq_none] at finished
      exact finished
    · rw [if_neg same]

theorem get_model_cached (source : ContentSource) {workspace : Workspace} {document : Document}
    {model : Model} (cached : Table.get? document.path workspace.models = some model)
    (given : Option String) :
    workspace.getModel source document given = ⟨some model, workspace, []⟩ := by
  unfold getModel
  rw [cached]

/-- Without a finished model, one is built from the text that is given or recorded. -/
theorem get_model_built (source : ContentSource) {workspace : Workspace} {document : Document}
    {given : Option String} {text : String}
    (absent : Table.get? document.path workspace.models = none)
    (chosen : (given <|> Table.get? document.path workspace.texts) = some text) :
    workspace.getModel source document given =
      ⟨some (buildModel source workspace.content document text).model,
        { workspace with
          content := (buildModel source workspace.content document text).cache
          models := Table.set document.path
            (buildModel source workspace.content document text).model workspace.models },
        (buildModel source workspace.content document text).events⟩ := by
  unfold getModel
  rw [absent, chosen]

/-- The moves that actions on a document are made of, with what happens. -/
inductive Moves (source : ContentSource) (document : Document) :
    Workspace → List Event → Workspace → Prop where
  | stay (workspace : Workspace) (events : List Event) :
      Moves source document workspace events workspace
  | fetch (workspace : Workspace) (target : String) :
      Moves source document workspace (workspace.content.fetch source document target).events
        { workspace with content := (workspace.content.fetch source document target).cache }
  | record (workspace : Workspace) (text : String) :
      Moves source document workspace [] (workspace.recordText document text)
  | forget (workspace : Workspace) :
      Moves source document workspace []
        { workspace with texts := Table.remove document.path workspace.texts }
  | drop (workspace : Workspace) :
      Moves source document workspace (workspace.invalidate document).events
        (workspace.invalidate document).workspace
  | build (workspace : Workspace) (text : String) :
      Moves source document workspace (buildModel source workspace.content document text).events
        { workspace with
          content := (buildModel source workspace.content document text).cache
          models := Table.set document.path
            (buildModel source workspace.content document text).model workspace.models }
  | trans {first second third : Workspace} {events more : List Event} :
      Moves source document first events second → Moves source document second more third →
        Moves source document first (events ++ more) third

section Moves

variable (source : ContentSource) (workspace : Workspace) (document : Document)

theorem get_model_moves (text : Option String) :
    Moves source document workspace (workspace.getModel source document text).events
      (workspace.getModel source document text).workspace := by
  unfold getModel
  split
  · exact .stay workspace []
  · split
    · exact .stay workspace []
    · rename_i chosen _
      exact .build workspace chosen

theorem fetch_all_moves (targets : List String) :
    Moves source document workspace (fetchAll source document workspace targets).events
      (fetchAll source document workspace targets).workspace := by
  induction targets generalizing workspace with
  | nil => exact .stay workspace []
  | cons target rest induction =>
      have later := induction
        { workspace with content := (workspace.content.fetch source document target).cache }
      rw [fetchAll]
      exact .trans (.fetch workspace target) later

theorem update_includes_moves (text : String) :
    Moves source document workspace (workspace.updateIncludes source document text).events
      (workspace.updateIncludes source document text).workspace := by
  unfold updateIncludes
  dsimp only
  split
  · exact .trans (.drop workspace) (fetch_all_moves source _ document _)
  · exact .drop workspace

theorem load_linter_options_moves :
    Moves source document workspace (workspace.loadLinterOptions source document).events
      (workspace.loadLinterOptions source document).workspace := by
  unfold loadLinterOptions
  split
  · exact .stay workspace []
  · exact fetch_all_moves source workspace document _

theorem on_change_moves (text : String) :
    Moves source document workspace (workspace.onChange source document text).events
      (workspace.onChange source document text).workspace := by
  have dropped : Moves source document workspace
      ((workspace.recordText document text).invalidate document).events
      ((workspace.recordText document text).invalidate document).workspace :=
    .trans (.record workspace text) (.drop _)
  unfold onChange
  dsimp only
  split
  · exact .trans dropped (get_model_moves source _ document _)
  · exact dropped

theorem on_close_moves :
    Moves source document workspace (workspace.onClose document).events
      (workspace.onClose document).workspace :=
  .trans (.forget workspace) (.drop _)

theorem lint_moves (linter : Option Linter) (text : String) (indent : Int) :
    Moves source document workspace (workspace.lint source linter document text indent).events
      (workspace.lint source linter document text indent).workspace := by
  unfold lint
  split
  · exact .stay workspace []
  · split
    · exact .trans (.stay workspace _) (get_model_moves source workspace document _)
    · exact .stay workspace []

/-- An opened options file is held, unless its path is held already. -/
theorem on_open_cases (text language : String) :
    Moves source document workspace (workspace.onOpen source document text language).events
      (workspace.onOpen source document text language).workspace ∨
    language = "json" ∧ ∃ path, workspace.content.get? path = none ∧
      (workspace.onOpen source document text language).workspace =
        { workspace with content := workspace.content.put path [text] } := by
  unfold onOpen
  split
  · rename_i json
    unfold trackLinterOptions
    dsimp only
    split
    · rename_i untracked
      simp only [Bool.and_eq_true, Bool.not_eq_true', ContentCache.holds,
        Option.isSome_eq_false_iff, Option.isNone_iff_eq_none] at untracked
      exact .inr ⟨json, _, untracked.2, rfl⟩
    · exact .inl (.stay workspace [])
  · left
    split
    · exact .stay workspace []
    · have updated := Moves.trans (.record workspace text)
        (update_includes_moves source (workspace.recordText document text) document text)
      dsimp only
      split
      · exact .trans (.trans updated (load_linter_options_moves source _ document))
          (get_model_moves source _ document _)
      · exact .record workspace text

end Moves

/-- The lines of a document are held because others may include it. -/
def Tracks (workspace : Workspace) (document : Document) : Prop :=
  ∃ path, canonicalPath workspace.content.home document = .ok path ∧
    workspace.content.holds path = true

theorem on_save_tracked {source : ContentSource} {workspace : Workspace} {document : Document}
    (text : String) (tracked : workspace.Tracks document) :
    ∃ path, canonicalPath workspace.content.home document = .ok path ∧
      workspace.content.holds path = true ∧
      (workspace.onSave source document text).workspace =
        { content := workspace.content.put path (lines text)
          models := []
          texts := Table.set document.path text workspace.texts } := by
  obtain ⟨path, resolves, held⟩ := tracked
  refine ⟨path, resolves, held, ?_⟩
  unfold onSave recordText
  dsimp only
  rw [ContentCache.refresh_tracked resolves held]
  rfl

theorem on_save_untracked (source : ContentSource) {workspace : Workspace} {document : Document}
    (text : String) (untracked : ¬workspace.Tracks document) :
    workspace.onSave source document text =
      if isFreeFormat text then
        (workspace.recordText document text).updateIncludes source document text
      else ⟨(), workspace.recordText document text, []⟩ := by
  have unheld : ∀ path, canonicalPath workspace.content.home document = .ok path →
      workspace.content.holds path = false := by
    intro path resolves
    exact Bool.eq_false_iff.mpr fun held => untracked ⟨path, resolves, held⟩
  unfold onSave recordText
  dsimp only
  rw [ContentCache.refresh_untracked unheld]
  dsimp only
  rw [if_neg Bool.false_ne_true]
  split
  · rfl
  · rfl

/-- What a step does: moves of its document, or an options file is held, or the lines of a tracked
file are replaced and all models dropped. -/
theorem perform_cases (linter : Option Linter) (workspace : Workspace) (step : Step) :
    let after := workspace.perform linter step
    Moves step.source step.action.document workspace after.2 after.1 ∨
    (∃ document text path, step.action = .opening document text "json" ∧
      workspace.content.get? path = none ∧
      after.1 = { workspace with content := workspace.content.put path [text] }) ∨
    (∃ document text path, step.action = .save document text ∧
      canonicalPath workspace.content.home document = .ok path ∧
      workspace.content.holds path = true ∧
      after.1 =
        { content := workspace.content.put path (lines text)
          models := []
          texts := Table.set document.path text workspace.texts }) := by
  obtain ⟨source, action⟩ := step
  cases action
  all_goals dsimp only [perform, Action.document]
  case request document text => exact .inl (get_model_moves source workspace document text)
  case invalidate document => exact .inl (.drop workspace)
  case change document text => exact .inl (on_change_moves source workspace document text)
  case opening document text language =>
      rcases on_open_cases source workspace document text language with
        moves | ⟨rfl, path, untracked, opened⟩
      · exact .inl moves
      · exact .inr (.inl ⟨document, text, path, rfl, untracked, opened⟩)
  case closing document => exact .inl (on_close_moves source workspace document)
  case save document text =>
      by_cases tracked : workspace.Tracks document
      · obtain ⟨path, resolves, held, saved⟩ := on_save_tracked text tracked
        exact .inr (.inr ⟨document, text, path, rfl, resolves, held, saved⟩)
      · refine .inl ?_
        rw [on_save_untracked source text tracked]
        split
        · exact .trans (.record workspace text) (update_includes_moves source _ document text)
        · exact .record workspace text
  case updateIncludes document text =>
      exact .inl (update_includes_moves source workspace document text)
  case loadLinterOptions document =>
      exact .inl (load_linter_options_moves source workspace document)
  case lint document text indent =>
      exact .inl (lint_moves source workspace document linter text indent)

end Workspace

end RpgSymbols
