import RpgSymbols.Proofs.Workspace.Freshness

/-!
Documents are kept apart. An action writes the text and the model of its own document and of no
other, whichever operations it is made of. The one exception is a saved file whose lines are held:
as any document may include it, every model is dropped. So what a session holds for a document that
is left alone is what it held before, or its model is gone; and nothing brings back what was closed.
-/

namespace RpgSymbols

namespace Workspace

def Action.Refreshes (workspace : Workspace) : Action → Prop
  | .save document text => (workspace.content.refresh document text).1 = true
  | _ => False

/-- Some step of the run refreshes lines that are held when it is performed. -/
def Refreshed (linter : Option Linter) (workspace : Workspace) (steps : List Step) : Prop :=
  ∃ earlier step later, steps = earlier ++ step :: later ∧
    step.action.Refreshes (workspace.run linter earlier).1

theorem refresh_tracked_iff (workspace : Workspace) (document : Document) (text : String) :
    (workspace.content.refresh document text).1 = true ↔ workspace.Tracks document := by
  by_cases tracks : workspace.Tracks document
  · obtain ⟨path, resolves, held⟩ := tracks
    rw [ContentCache.refresh_tracked resolves held]
    exact iff_of_true rfl ⟨path, resolves, held⟩
  · have unheld : ∀ path, canonicalPath workspace.content.home document = .ok path →
        workspace.content.holds path = false :=
      fun path resolves => Bool.eq_false_iff.mpr fun held => tracks ⟨path, resolves, held⟩
    rw [ContentCache.refresh_untracked unheld]
    exact iff_of_false Bool.false_ne_true tracks

theorem refreshed_cons (linter : Option Linter) (workspace : Workspace) (step : Step)
    (rest : List Step) :
    Refreshed linter workspace (step :: rest) ↔ step.action.Refreshes workspace ∨
      Refreshed linter (workspace.perform linter step).1 rest := by
  constructor
  · rintro ⟨earlier, refresher, later, parts, refreshes⟩
    cases earlier with
    | nil =>
        obtain ⟨rfl, rfl⟩ := List.cons.inj parts
        exact .inl refreshes
    | cons first between =>
        obtain ⟨rfl, rfl⟩ := List.cons.inj parts
        exact .inr ⟨between, refresher, later, rfl, refreshes⟩
  · rintro (now | ⟨earlier, refresher, later, rfl, refreshes⟩)
    · exact ⟨[], step, rest, rfl, now⟩
    · exact ⟨step :: earlier, refresher, later, rfl, refreshes⟩

section Elsewhere

variable {path : String}

theorem moves_model_elsewhere {source : ContentSource} {document : Document}
    {before after : Workspace} {events : List Event}
    (moves : Moves source document before events after) (other : document.path ≠ path) :
    Table.get? path after.models = Table.get? path before.models := by
  induction moves with
  | drop workspace => rw [get_invalidate, if_neg other]
  | build workspace text =>
      dsimp only
      rw [Table.get_set, if_neg other]
  | trans _ _ earlier later => exact later.trans earlier
  | _ => rfl

variable (linter : Option Linter) (workspace : Workspace) (step : Step)

theorem models_refreshed (refreshes : step.action.Refreshes workspace) :
    (workspace.perform linter step).1.models = [] := by
  obtain ⟨source, action⟩ := step
  cases action with
  | save document text =>
      have tracked := (refresh_tracked_iff workspace document text).mp refreshes
      obtain ⟨saved, _, _, after⟩ := @on_save_tracked source workspace document text tracked
      exact congrArg Workspace.models after
  | _ => exact refreshes.elim

theorem model_elsewhere (other : step.action.document.path ≠ path)
    (unrefreshed : ¬step.action.Refreshes workspace) :
    Table.get? path (workspace.perform linter step).1.models =
      Table.get? path workspace.models := by
  rcases perform_cases linter workspace step with
    moves | ⟨_, _, _, _, _, opened⟩ | ⟨document, text, saved, save, resolves, held, _⟩
  · exact moves_model_elsewhere moves other
  · rw [opened]
  · rw [save] at unrefreshed
    exact absurd ((refresh_tracked_iff _ _ _).mpr ⟨saved, resolves, held⟩) unrefreshed

theorem absent_elsewhere (other : step.action.document.path ≠ path)
    (absent : Table.get? path workspace.models = none) :
    Table.get? path (workspace.perform linter step).1.models = none := by
  by_cases refreshes : step.action.Refreshes workspace
  · rw [models_refreshed linter workspace step refreshes]
    rfl
  · rw [model_elsewhere linter workspace step other refreshes, absent]

end Elsewhere

section Run

variable (linter : Option Linter) {path : String} {steps : List Step}

theorem absent_run (others : ∀ step ∈ steps, step.action.document.path ≠ path)
    {workspace : Workspace} (absent : Table.get? path workspace.models = none) :
    Table.get? path (workspace.run linter steps).1.models = none := by
  have keeps : ∀ step ∈ steps, ∀ (now : Workspace) (_ : List Event),
      Table.get? path now.models = none →
        Table.get? path (now.perform linter step).1.models = none :=
    fun step listed now _ => absent_elsewhere linter now step (others step listed)
  exact run_keeps keeps workspace [] absent

theorem model_run (others : ∀ step ∈ steps, step.action.document.path ≠ path)
    (workspace : Workspace) :
    (¬Refreshed linter workspace steps →
      Table.get? path (workspace.run linter steps).1.models = Table.get? path workspace.models) ∧
    (Refreshed linter workspace steps →
      Table.get? path (workspace.run linter steps).1.models = none) := by
  induction steps generalizing workspace with
  | nil =>
      refine ⟨fun _ => rfl, ?_⟩
      rintro ⟨earlier, step, later, parts, _⟩
      simp at parts
  | cons step rest induction =>
      obtain ⟨now, later⟩ := List.forall_mem_cons.mp others
      obtain ⟨kept, dropped⟩ := induction later (workspace.perform linter step).1
      rw [refreshed_cons, run]
      constructor
      · intro never
        obtain ⟨unrefreshed, neverLater⟩ := not_or.mp never
        rw [kept neverLater, model_elsewhere linter workspace step now unrefreshed]
      · rintro (refreshes | refreshedLater)
        · apply absent_run linter later
          rw [models_refreshed linter workspace step refreshes]
          rfl
        · exact dropped refreshedLater

/-- The text of a document that is left alone. -/
theorem text_run (others : ∀ step ∈ steps, step.action.document.path ≠ path)
    (workspace : Workspace) :
    Table.get? path (workspace.run linter steps).1.texts = Table.get? path workspace.texts :=
  get_text_run linter (fun step listed own => absurd own (others step listed)) workspace

end Run

/-- A request without a text has no answer and no effect where neither is known. -/
theorem get_model_unknown (source : ContentSource) {workspace : Workspace} {document : Document}
    (model : Table.get? document.path workspace.models = none)
    (text : Table.get? document.path workspace.texts = none) :
    workspace.getModel source document none = ⟨none, workspace, []⟩ := by
  unfold getModel
  rw [model, text]
  rfl

/-- A run on other documents leaves the text of a document as it is. Its model stays too, unless
lines that are held are refreshed by a save, and is gone then; at no point of the run is there a
model that was not there before. So a document that was closed before the run is not known after
it, and asking for its model has no answer. -/
theorem other_documents_untouched (linter : Option Linter) (workspace : Workspace)
    (document : Document) (steps : List Step)
    (others : ∀ step ∈ steps, step.action.document.path ≠ document.path) :
    let after := (workspace.run linter steps).1
    Table.get? document.path after.texts = Table.get? document.path workspace.texts ∧
    (¬Refreshed linter workspace steps →
      Table.get? document.path after.models = Table.get? document.path workspace.models) ∧
    (Refreshed linter workspace steps → Table.get? document.path after.models = none) ∧
    (∀ earlier later model, steps = earlier ++ later →
      Table.get? document.path (workspace.run linter earlier).1.models = some model →
      Table.get? document.path workspace.models = some model) ∧
    ∀ source, let closed := ((workspace.onClose document).workspace.run linter steps).1
      closed.getModel source document none = ⟨none, closed, []⟩ := by
  intro after
  obtain ⟨kept, dropped⟩ := model_run linter others workspace
  refine ⟨text_run linter others workspace, kept, dropped, ?_, ?_⟩
  · rintro earlier later model rfl there
    have before : ∀ step ∈ earlier, step.action.document.path ≠ document.path :=
      fun step listed => others step (List.mem_append_left later listed)
    obtain ⟨same, gone⟩ := model_run linter before workspace
    by_cases refreshed : Refreshed linter workspace earlier
    · rw [gone refreshed] at there
      cases there
    · rw [← same refreshed, there]
  · intro source closed
    apply get_model_unknown
    · apply absent_run linter others
      rw [onClose]
      exact invalidate_gone (.inr rfl)
    · rw [text_run linter others, onClose]
      exact (Table.get_remove _ _ _).trans (if_pos rfl)

/-- The document `/A` includes a file that another document includes as well and that is saved. Its
model is gone and its text is not. If it is closed before, nothing is known of it. -/
theorem shared_include_drops_model :
    let document : Document := ⟨"streamfile", "/A"⟩
    let other : Document := ⟨"streamfile", "/a"⟩
    let source : ContentSource := .ofStreams [("/C", "dcl-c OLD 1;")]
    let text := "**FREE\n/copy c"
    let workspace := ((start "/").run none [⟨source, .change document text⟩]).1
    let steps : List Step :=
      [⟨source, .opening other "**FREE\n/include c" "rpgle"⟩,
        ⟨source, .save ⟨"streamfile", "/c"⟩ "dcl-c NEW 2;"⟩, ⟨source, .closing other⟩]
    let after := (workspace.run none steps).1
    let closed := ((workspace.onClose document).workspace.run none steps).1
    (∀ step ∈ steps, step.action.document.path ≠ "/A") ∧ Refreshed none workspace steps ∧
      (Table.get? "/A" workspace.models).isSome = true ∧
      Table.get? "/A" after.texts = some text ∧ Table.get? "/A" after.models = none ∧
      (closed.getModel source document none).value = none := by
  intro document other source text workspace steps after closed
  have others : ∀ step ∈ steps, step.action.document.path ≠ "/A" := by
    simp [steps, other, Action.document]
  have tracked : Action.Refreshes (workspace.run none (steps.take 1)).1
      (.save ⟨"streamfile", "/c"⟩ "dcl-c NEW 2;") := by
    change _ = true
    decide +kernel
  have refreshed : Refreshed none workspace steps :=
    ⟨steps.take 1, ⟨source, .save ⟨"streamfile", "/c"⟩ "dcl-c NEW 2;"⟩, steps.drop 2, rfl, tracked⟩
  have built : (Table.get? "/A" workspace.models).isSome = true := by decide +kernel
  have recorded : Table.get? "/A" workspace.texts = some text := by decide +kernel
  obtain ⟨same, _, dropped, _, unknown⟩ :=
    other_documents_untouched none workspace document steps others
  refine ⟨others, refreshed, built, same.trans recorded, dropped refreshed, ?_⟩
  have answer := unknown source
  exact congrArg Reply.value answer

end Workspace

end RpgSymbols
