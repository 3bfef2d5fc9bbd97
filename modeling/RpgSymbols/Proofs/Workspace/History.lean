import RpgSymbols.Proofs.Workspace.Run

/-!
A model does not depend on what was asked of the session before. The content cache fills up in an
order set by the run, but as long as the documents have one scheme and lines come from the source
alone, it answers every document as an empty cache does. So a model that is built anew is the one
that a session without a history would build.
-/

namespace RpgSymbols

open Text

namespace Workspace

/-- The action brings no lines into the content cache but those it fetches. -/
def Action.OnlyFetches : Action → Prop
  | .save _ _ => False
  | .opening _ _ language => language ≠ "json"
  | _ => True

theorem moves_answer_alike {source : ContentSource} {document other : Document}
    {before after : Workspace} {events : List Event}
    (moves : Moves source document before events after)
    (scheme : document.scheme = other.scheme) :
    before.content.AnswersAlike source other after.content := by
  induction moves with
  | stay workspace events => exact .refl source other workspace.content
  | fetch workspace target =>
      dsimp only
      exact ContentCache.fetch_answers_alike source workspace.content scheme target
  | record workspace text => exact .refl source other workspace.content
  | forget workspace => exact .refl source other workspace.content
  | drop workspace => exact .refl source other workspace.content
  | build workspace text =>
      dsimp only
      rw [build_model_cache]
      apply ContentCache.after_fetches_answers_alike
      intro call listed
      rw [mem_include_calls listed]
      exact scheme
  | trans first second earlier later => exact earlier.trans later

theorem perform_answers_alike (linter : Option Linter) (workspace : Workspace) (step : Step)
    {document : Document} (scheme : step.action.document.scheme = document.scheme)
    (fetches : step.action.OnlyFetches) :
    workspace.content.AnswersAlike step.source document
      (workspace.perform linter step).1.content := by
  rcases perform_cases linter workspace step with
    moves | ⟨opened, text, path, opening, _, _⟩ | ⟨saved, text, path, save, _, _⟩
  · exact moves_answer_alike moves scheme
  · rw [opening] at fetches
    exact absurd rfl fetches
  · rw [save] at fetches
    exact fetches.elim

section Run

variable (linter : Option Linter) (source : ContentSource) (home : String)
  {actions : List Action} {document : Document}

/-- To a document of the scheme, the cache after a run is the empty one. -/
theorem run_answers_alike
    (scheme : ∀ action ∈ actions, action.document.scheme = document.scheme)
    (fetches : ∀ action ∈ actions, action.OnlyFetches) :
    (ContentCache.mk home []).AnswersAlike source document
      ((start home).run linter (actions.map (Step.mk source))).1.content := by
  have keeps : ∀ step ∈ actions.map (Step.mk source), ∀ (workspace : Workspace)
      (log : List Event), (ContentCache.mk home []).AnswersAlike source document workspace.content →
        (ContentCache.mk home []).AnswersAlike source document
          (workspace.perform linter step).1.content := by
    intro step listed workspace log before
    obtain ⟨action, performed, rfl⟩ := List.mem_map.mp listed
    exact before.trans (perform_answers_alike linter workspace ⟨source, action⟩
      (scheme action performed) (fetches action performed))
  exact run_keeps keeps (start home) [] (.refl source document _)

end Run

/-- A model that is built in a session is the one that an empty cache gives, whatever was asked of
the session before on documents of the same scheme. -/
theorem model_without_history (linter : Option Linter) (source : ContentSource) (home : String)
    (actions : List Action) (document : Document) (text : String)
    (scheme : ∀ action ∈ actions, action.document.scheme = document.scheme)
    (fetches : ∀ action ∈ actions, action.OnlyFetches) :
    let workspace := ((start home).run linter (actions.map (Step.mk source))).1
    let fresh := (buildModel source { home := home } document text).model
    (isFreeFormat text = true → (workspace.onChange source document text).value = some fresh) ∧
    (Table.get? document.path workspace.models = none →
      (workspace.getModel source document (some text)).value = some fresh) ∧
    ((workspace.invalidate document).workspace.getModel source document (some text)).value =
      some fresh := by
  intro workspace fresh
  have alike := run_answers_alike linter source home scheme fetches
  have built : ∀ session : Workspace, session.content = workspace.content →
      Table.get? document.path session.models = none →
      (session.getModel source document (some text)).value = some fresh := by
    intro session content absent
    rw [get_model_built source absent rfl, content, build_model_alike alike text]
  have dropped : ∀ session : Workspace,
      Table.get? document.path (session.invalidate document).workspace.models = none := by
    intro session
    rw [get_invalidate, if_pos rfl]
  refine ⟨?_, built workspace rfl, built _ rfl (dropped workspace)⟩
  intro free
  rw [onChange]
  dsimp only
  rw [if_pos free]
  exact built _ rfl (dropped _)

/-- The member that the second document includes was fetched for the first, which spells it in
another way. -/
theorem shared_member_without_history :
    let source := ContentSource.ofFiles [(⟨none, "LIB", "REF", "M"⟩, "dcl-c X 1;")] []
    let first : Document := ⟨"member", "/LIB/SRC/A.rpgle"⟩
    let second : Document := ⟨"member", "/lib/ref/B.rpgle"⟩
    let actions : List Action :=
      [.opening first "**FREE\n/copy ref,m" "rpgle", .lint first "**FREE" 2, .closing first]
    let linter : Option Linter := some fun _ _ _ => []
    let workspace := ((start "/").run linter (actions.map (Step.mk source))).1
    let text := "**FREE\n/copy m\n/copy n"
    workspace.content.holds "/LIB/REF/M" = true ∧ isFreeFormat text = true ∧
      (workspace.onChange source second text).value =
        some (buildModel source {} second text).model ∧
      ((workspace.invalidate second).workspace.getModel source second (some text)).value =
        some (buildModel source {} second text).model := by
  intro source first second actions linter workspace text
  have held : workspace.content.holds "/LIB/REF/M" = true := by decide +kernel
  have free : isFreeFormat text = true := by decide +kernel
  have scheme : ∀ action ∈ actions, action.document.scheme = second.scheme := by
    simp [actions, first, second, Action.document]
  have fetches : ∀ action ∈ actions, action.OnlyFetches := by
    simp [actions, Action.OnlyFetches]
  have answers := model_without_history linter source "/" actions second text scheme fetches
  exact ⟨held, free, answers.1 free, answers.2.2⟩

end Workspace

end RpgSymbols
