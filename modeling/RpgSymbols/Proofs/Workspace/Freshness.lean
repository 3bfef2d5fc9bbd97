import RpgSymbols.Proofs.Include.OwnDeclarations
import RpgSymbols.Proofs.Workspace.Run

/-!
Which text a model is made from. A change drops the finished model of its document, and so does
free-format source that is opened or saved. Text in fixed format that is opened or saved is recorded
and nothing more, unless others may include the file. Then a model made from an earlier text stays
the answer until something else drops it.
-/

namespace RpgSymbols

open Text

def Model.OfText (model : Model) (path text : String) : Prop :=
  ∃ files, (Table.keys ((path, lines text) :: files)).Nodup ∧
    model = assemble ((path, lines text) :: files)

/-- What the text declares by itself stands in front. -/
theorem Model.OfText.keeps_own {model : Model} {path text : String}
    (made : model.OfText path text) :
    ∃ files, (assemble [(path, lines text)]).KeptIn model files := by
  obtain ⟨files, _, rfl⟩ := made
  generalize lines text = own
  have consistent := Assembler.consistent_feed_all [.file path own]
  exact ⟨files, Assembler.kept_in consistent files⟩

namespace Workspace

def Action.reports? : Action → Option String
  | .change _ text | .save _ text => some text
  | .opening _ text language => if language = "rpgle" then some text else none
  | _ => none

def Action.closes : Action → Bool
  | .closing _ => true
  | _ => false

/-- The action neither reports a text for the path nor closes it. -/
def Action.Quiet (path : String) (action : Action) : Prop :=
  action.document.path = path → action.reports? = none ∧ action.closes = false

/-- Models are asked for without a text, and the linter is not run. -/
def Action.Plain : Action → Prop
  | .request _ text => text = none
  | .lint _ _ _ => False
  | _ => True

theorem Action.plain_of_reports {action : Action} {text : String}
    (reports : action.reports? = some text) : action.Plain ∧ action.closes = false := by
  cases action with
  | change document text => exact ⟨trivial, rfl⟩
  | opening document text language => exact ⟨trivial, rfl⟩
  | save document text => exact ⟨trivial, rfl⟩
  | _ => cases reports

/-- The finished model of the path, if there is one, is dropped. -/
def Action.Drops (workspace : Workspace) (path : String) : Action → Prop
  | .invalidate document | .change document _ | .closing document
  | .updateIncludes document _ => document.path = path
  | .opening document text language =>
      document.path = path ∧ language = "rpgle" ∧ isFreeFormat text = true
  | .save document text =>
      workspace.Tracks document ∨ document.path = path ∧ isFreeFormat text = true
  | .request _ _ | .loadLinterOptions _ | .lint _ _ _ => False

def Dropped (linter : Option Linter) (path : String) : Workspace → List Step → Prop
  | _, [] => False
  | workspace, step :: rest =>
      step.action.Drops workspace path ∨ Dropped linter path (workspace.perform linter step).1 rest

/-- The finished model of the path is made from the text that is recorded. -/
def Current (path : String) (workspace : Workspace) : Prop :=
  ∀ model, Table.get? path workspace.models = some model →
    ∃ text, Table.get? path workspace.texts = some text ∧ model.OfText path text

section Operations

variable (source : ContentSource) (workspace : Workspace) (document : Document)

@[simp]
theorem invalidate_texts : (workspace.invalidate document).workspace.texts = workspace.texts := rfl

theorem fetch_all_workspace (targets : List String) :
    (fetchAll source document workspace targets).workspace =
      { workspace with
        content := workspace.content.afterFetches source (targets.map (document, ·)) } := by
  induction targets generalizing workspace with
  | nil => rfl
  | cons target rest induction =>
      rw [fetchAll]
      dsimp only
      rw [induction, List.map_cons, ContentCache.after_fetches_cons]

@[simp]
theorem update_includes_texts (text : String) :
    (workspace.updateIncludes source document text).workspace.texts = workspace.texts := by
  unfold updateIncludes
  dsimp only
  split
  · rw [fetch_all_workspace, invalidate_texts]
  · rfl

@[simp]
theorem update_includes_models (text : String) :
    (workspace.updateIncludes source document text).workspace.models =
      (workspace.invalidate document).workspace.models := by
  unfold updateIncludes
  dsimp only
  split
  · rw [fetch_all_workspace]
  · rfl

@[simp]
theorem load_linter_options_texts :
    (workspace.loadLinterOptions source document).workspace.texts = workspace.texts := by
  unfold loadLinterOptions
  split
  · rfl
  · rw [fetch_all_workspace]

@[simp]
theorem load_linter_options_models :
    (workspace.loadLinterOptions source document).workspace.models = workspace.models := by
  unfold loadLinterOptions
  split
  · rfl
  · rw [fetch_all_workspace]

@[simp]
theorem get_model_texts (given : Option String) :
    (workspace.getModel source document given).workspace.texts = workspace.texts := by
  unfold getModel
  split
  · rfl
  · split <;> rfl

theorem on_open_other (text : String) {language : String} (other : language ≠ "rpgle") :
    (workspace.onOpen source document text language).workspace.models = workspace.models ∧
      (workspace.onOpen source document text language).workspace.texts = workspace.texts := by
  unfold onOpen
  split
  · unfold trackLinterOptions
    dsimp only
    split
    · exact ⟨rfl, rfl⟩
    · exact ⟨rfl, rfl⟩
  · exact ⟨rfl, rfl⟩

theorem on_open_fixed {text : String} (fixed : ¬isFreeFormat text = true) :
    (workspace.onOpen source document text "rpgle").workspace =
      workspace.recordText document text := by
  unfold onOpen
  rw [if_neg (by decide), if_neg (by decide)]
  dsimp only
  rw [if_neg fixed]

theorem on_open_free {text : String} (free : isFreeFormat text = true) :
    (workspace.onOpen source document text "rpgle").workspace =
      (((((workspace.recordText document text).updateIncludes source document
        text).workspace).loadLinterOptions source document).workspace.getModel source document
          (some text)).workspace := by
  unfold onOpen
  rw [if_neg (by decide), if_neg (by decide)]
  dsimp only
  rw [if_pos free]

variable {source workspace document}

theorem get_model_keeps {path : String} {model : Model}
    (cached : Table.get? path workspace.models = some model) (given : Option String) :
    Table.get? path (workspace.getModel source document given).workspace.models = some model := by
  cases own : Table.get? document.path workspace.models with
  | some other =>
      rw [get_model_cached source own]
      exact cached
  | none =>
      cases chosen : given <|> Table.get? document.path workspace.texts with
      | none =>
          unfold getModel
          rw [own, chosen]
          exact cached
      | some text =>
          have apart : document.path ≠ path := by
            rintro rfl
            rw [own] at cached
            cases cached
          rw [get_model_built source own chosen]
          dsimp only
          rw [Table.get_set, if_neg apart]
          exact cached

/-- A model that a request leaves was there before, or it is made from the text of the request. -/
theorem get_model_origin {path : String} {model : Model} {given : Option String}
    (cached : Table.get? path (workspace.getModel source document given).workspace.models =
      some model) :
    Table.get? path workspace.models = some model ∨
      document.path = path ∧ ∃ text,
        (given <|> Table.get? document.path workspace.texts) = some text ∧
          model.OfText path text := by
  cases own : Table.get? document.path workspace.models with
  | some other =>
      rw [get_model_cached source own] at cached
      exact .inl cached
  | none =>
      cases chosen : given <|> Table.get? document.path workspace.texts with
      | none =>
          unfold getModel at cached
          rw [own, chosen] at cached
          exact .inl cached
      | some text =>
          rw [get_model_built source own chosen] at cached
          dsimp only at cached
          rw [Table.get_set] at cached
          split at cached
          · rename_i same
            obtain ⟨files, distinct, made⟩ :=
              build_model_own source workspace.content document text
            rw [← Option.some.inj cached, ← same]
            exact .inr ⟨rfl, text, rfl, files, distinct, made⟩
          · exact .inl cached

theorem get_recorded (workspace : Workspace) (document : Document) (text : String) :
    Table.get? document.path (workspace.recordText document text).texts = some text := by
  rw [recordText, Table.get_set, if_pos rfl]

theorem invalidate_gone {path : String}
    (gone : Table.get? path workspace.models = none ∨ document.path = path) :
    Table.get? path (workspace.invalidate document).workspace.models = none := by
  rw [get_invalidate]
  split
  · rfl
  · rename_i other
    exact gone.resolve_right other

theorem current_of_absent {path : String}
    (absent : Table.get? path workspace.models = none) : Current path workspace := by
  intro model cached
  rw [absent] at cached
  cases cached

theorem current_of_recorded {path text : String}
    (absent : Table.get? path workspace.models = none)
    (known : Table.get? document.path workspace.texts = some text) :
    Current path (workspace.getModel source document (some text)).workspace := by
  intro model cached
  rcases get_model_origin cached with before | ⟨rfl, chosen, given, made⟩
  · rw [absent] at before
    cases before
  · cases given
    rw [get_model_texts]
    exact ⟨text, known, made⟩

end Operations

section Steps

variable (linter : Option Linter) (workspace : Workspace) (step : Step) {path : String}

/-- What is recorded for a path is what was reported for it last, until it is closed. -/
theorem get_text_perform (path : String) :
    Table.get? path (workspace.perform linter step).1.texts =
      if step.action.document.path = path then
        if step.action.closes then none
        else step.action.reports?.or (Table.get? path workspace.texts)
      else Table.get? path workspace.texts := by
  obtain ⟨source, action⟩ := step
  cases action
  all_goals dsimp only [perform, Action.document, Action.closes, Action.reports?]
  case request document text => simp
  case invalidate document => simp
  case change document text =>
      have texts : (workspace.onChange source document text).workspace.texts =
          Table.set document.path text workspace.texts := by
        unfold onChange
        dsimp only
        split
        · rw [get_model_texts, invalidate_texts, recordText]
        · rw [invalidate_texts, recordText]
      rw [texts, Table.get_set]
      simp
  case opening document text language =>
      by_cases rpgle : language = "rpgle"
      · subst rpgle
        have texts : (workspace.onOpen source document text "rpgle").workspace.texts =
            Table.set document.path text workspace.texts := by
          by_cases free : isFreeFormat text = true
          · rw [on_open_free source workspace document free, get_model_texts,
              load_linter_options_texts, update_includes_texts, recordText]
          · rw [on_open_fixed source workspace document free, recordText]
        rw [texts, Table.get_set]
        simp
      · rw [(on_open_other source workspace document text rpgle).2]
        simp [rpgle]
  case closing document =>
      rw [onClose]
      dsimp only
      rw [invalidate_texts, Table.get_remove]
      simp
  case save document text =>
      have texts : (workspace.onSave source document text).workspace.texts =
          Table.set document.path text workspace.texts := by
        by_cases tracked : workspace.Tracks document
        · obtain ⟨saved, _, _, after⟩ := on_save_tracked text tracked
          rw [after]
        · rw [on_save_untracked source text tracked]
          split
          · rw [update_includes_texts, recordText]
          · rfl
      rw [texts, Table.get_set]
      simp
  case updateIncludes document text => simp
  case loadLinterOptions document => simp
  case lint document text indent =>
      have texts : (workspace.lint source linter document text indent).workspace.texts =
          workspace.texts := by
        unfold lint
        split
        · rfl
        · split
          · exact get_model_texts source workspace document _
          · rfl
      simp [texts]

theorem get_text_quiet (quiet : step.action.Quiet path) :
    Table.get? path (workspace.perform linter step).1.texts =
      Table.get? path workspace.texts := by
  rw [get_text_perform]
  split
  · rename_i own
    obtain ⟨silent, opened⟩ := quiet own
    rw [silent, opened]
    rfl
  · rfl

theorem model_kept {model : Model} (kept : ¬step.action.Drops workspace path)
    (cached : Table.get? path workspace.models = some model) :
    Table.get? path (workspace.perform linter step).1.models = some model := by
  obtain ⟨source, action⟩ := step
  cases action
  all_goals dsimp only [perform, Action.Drops] at kept ⊢
  case request document text => exact get_model_keeps cached text
  case invalidate document =>
      rw [get_invalidate, if_neg kept]
      exact cached
  case change document text =>
      have dropped : Table.get? path
          ((workspace.recordText document text).invalidate document).workspace.models =
            some model := by
        rw [get_invalidate, if_neg kept]
        exact cached
      unfold onChange
      dsimp only
      split
      · exact get_model_keeps dropped _
      · exact dropped
  case opening document text language =>
      by_cases rpgle : language = "rpgle"
      · subst rpgle
        by_cases free : isFreeFormat text = true
        · rw [on_open_free source workspace document free]
          apply get_model_keeps
          rw [load_linter_options_models, update_includes_models, get_invalidate,
            if_neg fun same => kept ⟨same, rfl, free⟩]
          exact cached
        · rw [on_open_fixed source workspace document free]
          exact cached
      · rw [(on_open_other source workspace document text rpgle).1]
        exact cached
  case closing document =>
      rw [onClose]
      dsimp only
      rw [get_invalidate, if_neg kept]
      exact cached
  case save document text =>
      obtain ⟨untracked, other⟩ := not_or.mp kept
      rw [on_save_untracked source text untracked]
      split
      · rename_i free
        rw [update_includes_models, get_invalidate, if_neg fun same => other ⟨same, free⟩]
        exact cached
      · exact cached
  case updateIncludes document text =>
      rw [update_includes_models, get_invalidate, if_neg kept]
      exact cached
  case loadLinterOptions document =>
      rw [load_linter_options_models]
      exact cached
  case lint document text indent =>
      unfold lint
      split
      · exact cached
      · split
        · exact get_model_keeps cached _
        · exact cached

/-- Where the model is dropped or there is none, the next one is made from the recorded text. -/
theorem current_of_dropped (plain : step.action.Plain)
    (gone : Table.get? path workspace.models = none ∨ step.action.Drops workspace path) :
    Current path (workspace.perform linter step).1 := by
  obtain ⟨source, action⟩ := step
  cases action
  all_goals dsimp only [perform, Action.Drops, Action.Plain] at plain gone ⊢
  case request document text =>
      have absent := gone.resolve_right id
      intro model cached
      rcases get_model_origin cached with before | ⟨rfl, chosen, known, made⟩
      · rw [absent] at before
        cases before
      · subst plain
        rw [get_model_texts]
        exact ⟨chosen, known, made⟩
  case invalidate document => exact current_of_absent (invalidate_gone gone)
  case change document text =>
      have absent : Table.get? path
          ((workspace.recordText document text).invalidate document).workspace.models = none :=
        invalidate_gone gone
      unfold onChange
      dsimp only
      split
      · exact current_of_recorded absent (get_recorded workspace document text)
      · exact current_of_absent absent
  case opening document text language =>
      by_cases rpgle : language = "rpgle"
      · subst rpgle
        by_cases free : isFreeFormat text = true
        · rw [on_open_free source workspace document free]
          apply current_of_recorded
          · rw [load_linter_options_models, update_includes_models]
            exact invalidate_gone (gone.imp_right And.left)
          · rw [load_linter_options_texts, update_includes_texts]
            exact get_recorded workspace document text
        · rw [on_open_fixed source workspace document free]
          exact current_of_absent (gone.resolve_right fun drops => free drops.2.2)
      · apply current_of_absent
        rw [(on_open_other source workspace document text rpgle).1]
        exact gone.resolve_right fun drops => rpgle drops.2.1
  case closing document =>
      rw [onClose]
      exact current_of_absent (invalidate_gone gone)
  case save document text =>
      by_cases tracked : workspace.Tracks document
      · obtain ⟨saved, _, _, after⟩ := on_save_tracked text tracked
        rw [after]
        exact current_of_absent rfl
      · have dropped := gone.imp_right fun drops => drops.resolve_left tracked
        rw [on_save_untracked source text tracked]
        split
        · apply current_of_absent
          rw [update_includes_models]
          exact invalidate_gone (dropped.imp_right And.left)
        · rename_i fixed
          exact current_of_absent (dropped.resolve_right fun drops => fixed drops.2)
  case updateIncludes document text =>
      apply current_of_absent
      rw [update_includes_models]
      exact invalidate_gone gone
  case loadLinterOptions document =>
      apply current_of_absent
      rw [load_linter_options_models]
      exact gone.resolve_right id

theorem current_perform (plain : step.action.Plain)
    (quiet : step.action.Quiet path)
    (current : Current path workspace) : Current path (workspace.perform linter step).1 := by
  -- Either the next model is made anew, or both the model and the recorded text stay.
  by_cases gone : Table.get? path workspace.models = none ∨ step.action.Drops workspace path
  · exact current_of_dropped linter workspace step plain gone
  · obtain ⟨there, kept⟩ := not_or.mp gone
    obtain ⟨model, cached⟩ := Option.ne_none_iff_exists'.mp there
    have stays := model_kept linter workspace step kept cached
    intro found after
    rw [stays] at after
    rw [get_text_quiet linter workspace step quiet, ← Option.some.inj after]
    exact current model cached

end Steps

section Run

variable (linter : Option Linter) {path : String}

/-- Steps that neither report a text for the path nor close it keep what is recorded. -/
theorem get_text_run {steps : List Step} (quiet : ∀ step ∈ steps, step.action.Quiet path)
    (workspace : Workspace) :
    Table.get? path (workspace.run linter steps).1.texts = Table.get? path workspace.texts := by
  induction steps generalizing workspace with
  | nil => rfl
  | cons step rest induction =>
      obtain ⟨now, later⟩ := List.forall_mem_cons.mp quiet
      rw [run, induction later, get_text_quiet linter workspace step now]

theorem model_kept_run {steps : List Step} {workspace : Workspace} {model : Model}
    (kept : ¬Dropped linter path workspace steps)
    (cached : Table.get? path workspace.models = some model) :
    Table.get? path (workspace.run linter steps).1.models = some model := by
  induction steps generalizing workspace with
  | nil => exact cached
  | cons step rest induction =>
      obtain ⟨now, later⟩ := not_or.mp kept
      rw [run]
      exact induction later (model_kept linter workspace step now cached)

/-- A model is current from the step on that drops an earlier one. -/
theorem current_run {steps : List Step} {workspace : Workspace}
    (plain : ∀ step ∈ steps, step.action.Plain)
    (quiet : ∀ step ∈ steps, step.action.Quiet path)
    (fresh : Current path workspace ∨ Dropped linter path workspace steps) :
    Current path (workspace.run linter steps).1 := by
  induction steps generalizing workspace with
  | nil => exact fresh.resolve_right id
  | cons step rest induction =>
      obtain ⟨plainNow, plainLater⟩ := List.forall_mem_cons.mp plain
      obtain ⟨quietNow, quietLater⟩ := List.forall_mem_cons.mp quiet
      rw [run]
      apply induction plainLater quietLater
      -- In the last case a stale model is carried along to the step that drops it.
      rcases fresh with current | dropsNow | dropsLater
      · exact .inl (current_perform linter workspace step plainNow quietNow current)
      · exact .inl (current_of_dropped linter workspace step plainNow (.inr dropsNow))
      · exact .inr dropsLater

end Run

theorem get_model_current (source : ContentSource) {workspace : Workspace} {document : Document}
    {text : String} (current : Current document.path workspace)
    (recorded : Table.get? document.path workspace.texts = some text) :
    ∃ model, (workspace.getModel source document none).value = some model ∧
      model.OfText document.path text := by
  cases cached : Table.get? document.path workspace.models with
  | some model =>
      obtain ⟨known, found, made⟩ := current model cached
      cases found.symm.trans recorded
      rw [get_model_cached source cached]
      exact ⟨model, rfl, made⟩
  | none =>
      rw [get_model_built source cached recorded]
      exact ⟨_, rfl, build_model_own source workspace.content document text⟩

/-- A text is reported for a document, and since then no other one and no closing. The model of the
document is then one of this text, if there was none before or if the report or a later step drops
it. Otherwise the answer is the model from before the report. -/
theorem latest_text_model (linter : Option Linter) (home : String) (before since : List Step)
    (event : Step) (source : ContentSource) (document : Document) (text : String)
    (plain : ∀ step ∈ since, step.action.Plain)
    (own : event.action.document.path = document.path)
    (reports : event.action.reports? = some text)
    (quiet : ∀ step ∈ since, step.action.Quiet document.path) :
    let earlier := ((start home).run linter before).1
    let now := ((start home).run linter (before ++ event :: since)).1
    let answer := (now.getModel source document none).value
    let renewed := Table.get? document.path earlier.models = none ∨
      Dropped linter document.path earlier (event :: since)
    (renewed → ∃ model, answer = some model ∧ model.OfText document.path text) ∧
      (¬renewed → ∃ old, Table.get? document.path earlier.models = some old ∧
        answer = some old) := by
  intro earlier now answer renewed
  obtain ⟨plainEvent, opened⟩ := Action.plain_of_reports reports
  have split : now = ((earlier.perform linter event).1.run linter since).1 := by
    dsimp only [now]
    rw [run_append, run]
  constructor
  · intro fresh
    have current : Current document.path now := by
      rw [split]
      apply current_run linter plain quiet
      rcases fresh with absent | drops | later
      · exact .inl (current_of_dropped linter earlier event plainEvent (.inl absent))
      · exact .inl (current_of_dropped linter earlier event plainEvent (.inr drops))
      · exact .inr later
    have recorded : Table.get? document.path now.texts = some text := by
      rw [split, get_text_run linter quiet, get_text_perform, if_pos own, reports, opened]
      rfl
    exact get_model_current source current recorded
  · intro kept
    obtain ⟨there, never⟩ := not_or.mp kept
    obtain ⟨old, cached⟩ := Option.ne_none_iff_exists'.mp there
    have stays : Table.get? document.path now.models = some old := by
      have final := model_kept_run linter never cached
      rw [run] at final
      rw [split]
      exact final
    refine ⟨old, cached, ?_⟩
    dsimp only [answer]
    rw [get_model_cached source stays]

/-- A text in fixed format is saved over one in free format. Once the model is invalidated, the next
request takes the saved text. -/
theorem invalidated_takes_saved_text :
    let document : Document := ⟨"streamfile", "/A"⟩
    let before : List Step := [⟨.ofStreams [], .change document "**FREE\ndcl-c A 1;"⟩]
    let event : Step := ⟨.ofStreams [], .save document "dcl-c B 2;"⟩
    let since : List Step :=
      [⟨.ofStreams [], .closing ⟨"streamfile", "/C"⟩⟩, ⟨.ofStreams [], .invalidate document⟩]
    let now := ((start "/").run none (before ++ event :: since)).1
    ∃ model, (now.getModel (.ofStreams []) document none).value = some model ∧
      model.OfText "/A" "dcl-c B 2;" := by
  intro document before event since now
  have plain : ∀ step ∈ since, step.action.Plain := by
    simp [since, Action.Plain]
  have quiet : ∀ step ∈ since, step.action.Quiet document.path := by
    simp [since, document, Action.Quiet, Action.document, Action.reports?, Action.closes]
  have drops : Dropped none document.path ((start "/").run none before).1 (event :: since) :=
    .inr (.inr (.inl rfl))
  exact (latest_text_model none "/" before since event (.ofStreams []) document "dcl-c B 2;" plain
    rfl rfl quiet).1 (.inr drops)

/-- Without it, the model of the earlier text is still the answer. -/
theorem saved_text_not_taken :
    let document : Document := ⟨"streamfile", "/A"⟩
    let steps : List Step :=
      [⟨.ofStreams [], .change document "**FREE\ndcl-c A 1;"⟩,
        ⟨.ofStreams [], .save document "dcl-c B 2;"⟩]
    let now := ((start "/").run none steps).1
    ∃ model, (now.getModel (.ofStreams []) document none).value = some model ∧
      model.constants.map Declaration.name = ["A"] ∧ ¬model.OfText "/A" "dcl-c B 2;" := by
  intro document steps now
  have answered : ((now.getModel (.ofStreams []) document none).value.map fun model =>
      model.constants.map Declaration.name) = some ["A"] := by decide +kernel
  have saved : (assemble [("/A", lines "dcl-c B 2;")]).constants.map Declaration.name = ["B"] := by
    decide +kernel
  obtain ⟨model, answer, names⟩ := Option.map_eq_some_iff.mp answered
  refine ⟨model, answer, names, ?_⟩
  intro made
  obtain ⟨files, kept⟩ := made.keeps_own
  have front := kept.constants.map Declaration.name
  rw [saved, names] at front
  exact absurd front (by decide)

end Workspace

end RpgSymbols
