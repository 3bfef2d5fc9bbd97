import RpgSymbols.Proofs.Cache.FetchSequence
import Mathlib.Logic.ExistsUnique

/-!
Runs of the content cache. Whatever is asked of it, a path that has lines keeps having lines, so it is
one step of a run that brings a path in: lines are put there, or a file is downloaded. A path that has
lines is never asked of a source again, and so it is downloaded once at most. From then on its lines are
replaced only by whoever puts others there or saves the file.
-/

namespace RpgSymbols.ContentCache

open Text

/-- What may be asked of a content cache. A fetch answers the canonical path and the lines; whoever asks
for the lines alone drops the path. -/
inductive Action where
  | fetch (document : Document) (target : String)
  | put (path : String) (lines : List String)
  | get (path : String)
  | refresh (document : Document) (text : String)

structure Step where
  source : ContentSource
  action : Action

inductive Answer where
  | fetched (path : Option String) (lines : List String)
  | stored
  | found (lines : Option (List String))
  | refreshed (tracked : Bool)
  deriving DecidableEq

structure Outcome where
  answer : Answer
  cache : ContentCache
  events : List Event

def perform (cache : ContentCache) (step : Step) : Outcome :=
  match step.action with
  | .fetch document target =>
      let fetched := cache.fetch step.source document target
      ⟨.fetched fetched.path fetched.lines, fetched.cache, fetched.events⟩
  | .put path lines => ⟨.stored, cache.put path lines, []⟩
  | .get path => ⟨.found (cache.get? path), cache, []⟩
  | .refresh document text =>
      let (tracked, after, events) := cache.refresh document text
      ⟨.refreshed tracked, after, events⟩

/-- The cache before step `count` of a run, or after the whole run if it has no more steps. -/
def before (home : String) (steps : List Step) (count : Nat) : ContentCache :=
  (steps.take count).foldl (fun cache step => (cache.perform step).cache) { home := home }

/-! One step. -/

section Fetch

variable {source : ContentSource} {cache : ContentCache} {document : Document} {target : String}
  {resolved : Resolved}

/-- A call that is answered downloads a path that had no lines. -/
theorem download_of_answer {request : Request} {text path : String} {found : List String}
    (fetched : (cache.fetch source document target).path = some path)
    (lines : (cache.fetch source document target).lines = found)
    (called : Event.requested request ∈ (cache.fetch source document target).events)
    (serves : source.serve request = .ok text) :
    cache.get? path = none ∧ found = Text.lines text ∧
      (cache.fetch source document target).cache = cache.put path found := by
  cases resolves : cache.resolve document target with
  | error reason =>
      rw [fetch_unresolved resolves] at fetched
      cases fetched
  | ok resolved =>
      have here := path_of_fetch source resolves
      cases here.symm.trans fetched
      cases held : cache.get? resolved.canonicalPath with
      | some old =>
          rw [fetch_held resolves held] at called
          cases called
      | none =>
          rcases refuses_or_serves source resolved with refuses | ⟨asked, answer, asks, answers⟩
          · obtain ⟨events, refused, unanswered⟩ := fetch_refused resolves held refuses
            rw [refused] at called
            exact absurd serves (unanswered request text called)
          · have downloaded := fetch_downloaded resolves held asks answers
            rw [downloaded] at called lines ⊢
            have same : request = asked := by simpa using called
            rw [same, answers] at serves
            cases serves
            exact ⟨rfl, lines.symm, by rw [← lines]⟩

end Fetch

/-- What a step does to a cache, and what it answers. -/
structure Obeys (cache : ContentCache) (step : Step) : Prop where
  held : ∀ document target resolved lines, step.action = .fetch document target →
    cache.resolve document target = .ok resolved →
    cache.get? resolved.canonicalPath = some lines →
    cache.perform step = ⟨.fetched (some resolved.canonicalPath) lines, cache, []⟩
  unresolved : ∀ document target reason, step.action = .fetch document target →
    cache.resolve document target = .error reason →
    cache.perform step =
      ⟨.fetched none [], cache, [.noticed (.skippedInclude target reason)]⟩
  refused : ∀ document target resolved, step.action = .fetch document target →
    cache.resolve document target = .ok resolved → cache.get? resolved.canonicalPath = none →
    Refuses step.source resolved →
    ∃ events, cache.perform step = ⟨.fetched (some resolved.canonicalPath) [], cache, events⟩
  downloaded : ∀ document target resolved request text, step.action = .fetch document target →
    cache.resolve document target = .ok resolved → cache.get? resolved.canonicalPath = none →
    resolved.request = .ok request → step.source.serve request = .ok text →
    cache.perform step = ⟨.fetched (some resolved.canonicalPath) (lines text),
      ⟨cache.home, cache.files ++ [(resolved.canonicalPath, lines text)]⟩, [.requested request]⟩
  untracked : ∀ document text, step.action = .refresh document text →
    (∀ path, canonicalPath cache.home document = .ok path → cache.get? path = none) →
    cache.perform step = ⟨.refreshed false, cache, []⟩
  changed : ∀ path lines, cache.get? path = some lines →
    (cache.perform step).cache.get? path ≠ some lines →
    (∃ others, step.action = .put path others) ∨
      ∃ document text, step.action = .refresh document text ∧
        canonicalPath cache.home document = .ok path

/-- A call of the step is answered with a text for the path. -/
def Step.DownloadsTo (step : Step) (cache : ContentCache) (path : String) : Prop :=
  ∃ found request text, (cache.perform step).answer = .fetched (some path) found ∧
    Event.requested request ∈ (cache.perform step).events ∧ step.source.serve request = .ok text

section Perform

variable (cache : ContentCache) (step : Step)

theorem downloads_to_new {cache : ContentCache} {step : Step} {path : String}
    (downloads : step.DownloadsTo cache path) :
    cache.get? path = none ∧ ∃ found, (cache.perform step).cache = cache.put path found := by
  obtain ⟨source, action⟩ := step
  obtain ⟨found, request, text, answered, called, serves⟩ := downloads
  cases action with
  | put other lines => cases answered
  | get other => cases answered
  | refresh document text => cases answered
  | fetch document target =>
      simp only [perform] at answered called ⊢
      injection answered with fetched lines
      have ⟨missing, _, after⟩ := download_of_answer fetched lines called serves
      exact ⟨missing, found, after⟩

/-- A step leaves the cache as it is, or lines are put there, or a tracked file is refreshed, or a
file is downloaded. -/
theorem perform_cases :
    (cache.perform step).cache = cache ∨
    (∃ path found, step.action = .put path found ∧
      (cache.perform step).cache = cache.put path found) ∨
    (∃ document text path, step.action = .refresh document text ∧
      canonicalPath cache.home document = .ok path ∧ cache.holds path = true ∧
      (cache.perform step).cache = cache.put path (lines text)) ∨
    ∃ path found, step.DownloadsTo cache path ∧
      (cache.perform step).cache = cache.put path found := by
  obtain ⟨source, action⟩ := step
  cases action with
  | put path found => exact .inr (.inl ⟨path, found, rfl, rfl⟩)
  | get path => exact .inl rfl
  | refresh document text =>
      by_cases tracked : ∃ path, canonicalPath cache.home document = .ok path ∧
          cache.holds path = true
      · obtain ⟨path, resolves, held⟩ := tracked
        refine .inr (.inr (.inl ⟨document, text, path, rfl, resolves, held, ?_⟩))
        simp only [perform, refresh_tracked resolves held]
      · simp only [not_exists, not_and, Bool.not_eq_true] at tracked
        exact .inl (by simp only [perform, refresh_untracked tracked])
  | fetch document target =>
      cases resolves : cache.resolve document target with
      | error reason => exact .inl (by simp only [perform, fetch_unresolved resolves])
      | ok resolved =>
          cases held : cache.get? resolved.canonicalPath with
          | some old => exact .inl (by simp only [perform, fetch_held resolves held])
          | none =>
              rcases refuses_or_serves source resolved with refuses | ⟨request, text, asks, serves⟩
              · obtain ⟨events, refused, _⟩ := fetch_refused resolves held refuses
                exact .inl (by simp only [perform, refused])
              · have downloaded := fetch_downloaded resolves held asks serves
                refine .inr (.inr (.inr ⟨resolved.canonicalPath, lines text, ?_, ?_⟩))
                · exact ⟨lines text, request, text, by simp [perform, downloaded],
                    by simp [perform, downloaded], serves⟩
                · simp only [perform, downloaded]

theorem home_perform : (cache.perform step).cache.home = cache.home := by
  rcases perform_cases cache step with
    same | ⟨path, found, _, after⟩ | ⟨_, text, path, _, _, _, after⟩ | ⟨path, found, _, after⟩
  · rw [same]
  all_goals rw [after, put]

/-- A path that has lines keeps having lines. -/
theorem held_perform {path : String} (held : cache.holds path = true) :
    (cache.perform step).cache.holds path = true := by
  have stored : ∀ other found, (cache.put other found).holds path = true := by
    intro other found
    rw [holds, get_put]
    split
    · rfl
    · exact held
  rcases perform_cases cache step with
    same | ⟨other, found, _, after⟩ | ⟨_, text, other, _, _, _, after⟩ | ⟨other, found, _, after⟩
  · rw [same]
    exact held
  all_goals
    rw [after]
    exact stored _ _

/-- A step that brings a path in puts lines there or downloads it. -/
theorem arrival_cases {path : String} (missing : cache.holds path = false)
    (arrives : (cache.perform step).cache.holds path = true) :
    (∃ found, step.action = .put path found) ∨ step.DownloadsTo cache path := by
  have here : ∀ other found, (cache.perform step).cache = cache.put other found → other = path := by
    intro other found after
    refine Classical.byContradiction fun elsewhere => ?_
    rw [after, holds, get_put, if_neg elsewhere, ← holds, missing] at arrives
    cases arrives
  rcases perform_cases cache step with
    same | ⟨other, found, puts, after⟩ | ⟨_, text, other, _, _, held, after⟩ |
    ⟨other, found, downloads, after⟩
  · rw [same, missing] at arrives
    cases arrives
  · cases here other found after
    exact .inl ⟨found, puts⟩
  · cases here other _ after
    rw [missing] at held
    cases held
  · cases here other found after
    exact .inr downloads

theorem obeys : cache.Obeys step := by
  obtain ⟨source, action⟩ := step
  constructor
  case held =>
    rintro document target resolved found rfl resolves held
    simp only [perform, fetch_held resolves held]
  case unresolved =>
    rintro document target reason rfl unresolved
    simp only [perform, fetch_unresolved unresolved]
  case refused =>
    rintro document target resolved rfl resolves missing refuses
    obtain ⟨events, refused, _⟩ := fetch_refused resolves missing refuses
    exact ⟨events, by simp only [perform, refused]⟩
  case downloaded =>
    rintro document target resolved request text rfl resolves missing asks serves
    have extended := Table.set_new (lines text) missing
    simp only [perform, fetch_downloaded resolves missing asks serves, put, extended]
  case untracked =>
    rintro document text rfl untracked
    have unheld : ∀ path, canonicalPath cache.home document = .ok path →
        cache.holds path = false := by
      intro path resolves
      rw [holds, untracked path resolves]
      rfl
    simp only [perform, refresh_untracked unheld]
  case changed =>
    intro path found held changes
    rcases perform_cases cache ⟨source, action⟩ with
      same | ⟨other, others, puts, after⟩ | ⟨document, text, other, refreshes, resolves, _, after⟩ |
      ⟨other, others, downloads, after⟩
    · rw [same] at changes
      exact absurd held changes
    all_goals
      have here : other = path := by
        refine Classical.byContradiction fun elsewhere => ?_
        rw [after, get_put, if_neg elsewhere] at changes
        exact changes held
      subst here
    · exact .inl ⟨others, puts⟩
    · exact .inr ⟨document, text, refreshes, resolves⟩
    · rw [(downloads_to_new downloads).1] at held
      cases held

end Perform

/-! Runs. -/

section Run

variable (home : String) (steps : List Step)

theorem before_succ {number : Nat} {step : Step} (taken : steps[number]? = some step) :
    before home steps (number + 1) = ((before home steps number).perform step).cache := by
  rw [before, before, List.take_add_one, taken, List.foldl_append]
  rfl

theorem before_past {number : Nat} (past : steps[number]? = none) :
    before home steps (number + 1) = before home steps number := by
  rw [before, before, List.take_add_one, past, Option.toList_none, List.append_nil]

theorem home_before (count : Nat) : (before home steps count).home = home := by
  induction count with
  | zero => rfl
  | succ count induction =>
      cases taken : steps[count]? with
      | none => rw [before_past home steps taken, induction]
      | some step => rw [before_succ home steps taken, home_perform, induction]

theorem held_later {path : String} {first last : Nat} (order : first ≤ last)
    (held : (before home steps first).holds path = true) :
    (before home steps last).holds path = true := by
  induction order with
  | refl => exact held
  | @step count _ induction =>
      cases taken : steps[count]? with
      | none => rwa [before_past home steps taken]
      | some step =>
          rw [before_succ home steps taken]
          exact held_perform _ step induction

def PutsNew (number : Nat) (path : String) : Prop :=
  ∃ source found, steps[number]? = some ⟨source, .put path found⟩ ∧
    (before home steps number).holds path = false

def Downloads (number : Nat) (path : String) : Prop :=
  ∃ step, steps[number]? = some step ∧ step.DownloadsTo (before home steps number) path

def Arrives (number : Nat) (path : String) : Prop :=
  (before home steps number).holds path = false ∧
    (before home steps (number + 1)).holds path = true

variable {home steps} {path : String}

/-- A path arrives once. -/
theorem Arrives.unique {first second : Nat} (one : Arrives home steps first path)
    (other : Arrives home steps second path) : first = second := by
  have never : ∀ {early late : Nat}, Arrives home steps early path →
      Arrives home steps late path → ¬ early < late := by
    intro early late earlier later order
    have held := held_later home steps order earlier.2
    rw [later.1] at held
    cases held
  have forward := never one other
  have backward := never other one
  omega

theorem exists_arrival {count : Nat} (held : (before home steps count).holds path = true) :
    ∃ number, Arrives home steps number path := by
  induction count with
  | zero => cases held
  | succ count induction =>
      by_cases earlier : (before home steps count).holds path = true
      · exact induction earlier
      · exact ⟨count, by simpa using earlier, held⟩

theorem arrives_of_downloads {number : Nat} (downloads : Downloads home steps number path) :
    Arrives home steps number path := by
  obtain ⟨step, taken, answered⟩ := downloads
  obtain ⟨missing, found, after⟩ := downloads_to_new answered
  constructor
  · rw [holds, missing]
    rfl
  · rw [before_succ home steps taken, after, holds, get_put, if_pos rfl]
    rfl

theorem Arrives.cases {number : Nat} (arrives : Arrives home steps number path) :
    PutsNew home steps number path ∨ Downloads home steps number path := by
  obtain ⟨missing, held⟩ := arrives
  cases taken : steps[number]? with
  | none =>
      rw [before_past home steps taken, missing] at held
      cases held
  | some step =>
      rw [before_succ home steps taken] at held
      rcases arrival_cases _ step missing held with ⟨found, puts⟩ | downloads
      · obtain ⟨source, action⟩ := step
        cases puts
        exact .inl ⟨source, found, taken, missing⟩
      · exact .inr ⟨step, taken, downloads⟩

end Run

/-- In every run of a cache that is empty at first: each step obeys the rules of the cache; a path that
has lines keeps having lines; and a path that has lines was either brought in by somebody who put
lines there, and then never downloaded, or it was downloaded exactly once. -/
theorem paths_downloaded_once (home : String) (steps : List Step) :
    (∀ (number : Nat) (step : Step), steps[number]? = some step →
      (before home steps number).home = home ∧ (before home steps number).Obeys step ∧
      before home steps (number + 1) = ((before home steps number).perform step).cache) ∧
    (∀ (path : String) (first last : Nat), first ≤ last →
      (before home steps first).holds path = true → (before home steps last).holds path = true) ∧
    ∀ path : String, (before home steps steps.length).holds path = true →
      ((∃ number, PutsNew home steps number path) ∧
        ∀ number, ¬ Downloads home steps number path) ∨
      ∃! number, Downloads home steps number path := by
  refine ⟨?_, fun path first last => held_later home steps, ?_⟩
  · intro number step taken
    exact ⟨home_before home steps number, obeys _ step, before_succ home steps taken⟩
  · intro path held
    obtain ⟨number, arrives⟩ := exists_arrival held
    have only : ∀ other, Downloads home steps other path → other = number :=
      fun other downloads => (arrives_of_downloads downloads).unique arrives
    rcases arrives.cases with puts | downloads
    · left
      refine ⟨⟨number, puts⟩, ?_⟩
      intro other downloads
      cases only other downloads
      obtain ⟨step, taken, found, request, text, answered, _⟩ := downloads
      obtain ⟨source, lines, putting, _⟩ := puts
      cases taken.symm.trans putting
      cases answered
    · exact .inr ⟨number, downloads, only⟩

/-- A file is asked for in vain, downloaded, asked for in another spelling when the source has lost it,
and saved. -/
theorem saved_file_downloaded_once :
    let document : Document := ⟨"streamfile", "/A"⟩
    let lost : ContentSource := .ofFiles [] []
    let steps : List Step := [⟨lost, .fetch document "b"⟩,
      ⟨.ofFiles [] [("/B", "one\ntwo")], .fetch document "b"⟩,
      ⟨lost, .fetch document "'/b'"⟩, ⟨lost, .refresh ⟨"streamfile", "/b"⟩ "three"⟩]
    (before "/" steps 1).files = [] ∧ (before "/" steps 3).files = [("/B", ["one", "two"])] ∧
      (before "/" steps 4).files = [("/B", ["three"])] ∧
      ∃! number, Downloads "/" steps number "/B" := by
  intro document lost steps
  have held : (before "/" steps steps.length).holds "/B" = true := by decide +kernel
  refine ⟨by decide +kernel, by decide +kernel, by decide +kernel, ?_⟩
  apply ((paths_downloaded_once "/" steps).2.2 "/B" held).resolve_left
  rintro ⟨⟨number, source, found, puts, _⟩, _⟩
  have listed := List.mem_of_getElem? puts
  simp [steps] at listed

end RpgSymbols.ContentCache
