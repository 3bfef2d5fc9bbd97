import RpgSymbols.Cache.Content
import RpgSymbols.Proofs.Include.CanonicalPath

/-!
What fetching gives. A target has the lines that the cache holds for its path, or else those that
the source serves. Fetching it stores these lines, and so no later answer to a document of the same
scheme is changed: their targets share a path only if they share an address. Saving a document only
replaces lines that are held for it.
-/

namespace RpgSymbols

open Text

theorem Table.get_set {Value : Type} (key name : String) (value : Value) (table : Table Value) :
    Table.get? name (Table.set key value table) =
      if key = name then some value else Table.get? name table := by
  induction table with
  | nil => simp [Table.set, Table.get?]
  | cons entry rest induction =>
      obtain ⟨first, old⟩ := entry
      by_cases same : first = key
      · subst same
        by_cases asked : first = name
        · simp [Table.set, Table.get?, asked]
        · simp [Table.set, Table.get?, asked]
      · rw [Table.set, if_neg same, Table.get?, Table.get?, induction]
        by_cases asked : first = name
        · subst asked
          simp [Ne.symm same]
        · simp [asked]

theorem Table.set_new {Value : Type} {key : String} {table : Table Value} (value : Value)
    (new : Table.get? key table = none) : Table.set key value table = table ++ [(key, value)] := by
  induction table with
  | nil => rfl
  | cons entry rest induction =>
      obtain ⟨first, old⟩ := entry
      rw [Table.get?] at new
      by_cases same : first = key
      · rw [if_pos same] at new
        cases new
      · rw [if_neg same] at new
        rw [Table.set, if_neg same, induction new, List.cons_append]

theorem Table.has_key_iff {Value : Type} (key : String) (table : Table Value) :
    Table.hasKey key table = true ↔ key ∈ table.map Prod.fst := by
  induction table with
  | nil => simp [Table.hasKey, Table.get?]
  | cons entry rest induction =>
      obtain ⟨first, value⟩ := entry
      by_cases same : first = key
      · simp [Table.hasKey, Table.get?, same]
      · rw [Table.hasKey, Table.get?, if_neg same, ← Table.hasKey, induction]
        simp [Ne.symm same]

theorem Table.keys_set {Value : Type} (key : String) (value : Value) (table : Table Value) :
    (Table.set key value table).keys =
      if key ∈ table.keys then table.keys else table.keys ++ [key] := by
  induction table with
  | nil => rfl
  | cons entry rest induction =>
      obtain ⟨first, old⟩ := entry
      by_cases same : first = key
      · simp [Table.set, Table.keys, same]
      · have later : (Table.set key value ((first, old) :: rest)).keys =
            first :: (Table.set key value rest).keys := by
          rw [Table.set, if_neg same, Table.keys, Table.keys, List.map_cons]
        have listed : key ∈ Table.keys ((first, old) :: rest) ↔ key ∈ Table.keys rest := by
          simp [Table.keys, Ne.symm same]
        rw [later, induction, if_congr listed rfl rfl]
        split <;> rfl

theorem Table.distinct_set {Value : Type} {table : Table Value} (distinct : table.keys.Nodup)
    (key : String) (value : Value) : (Table.set key value table).keys.Nodup := by
  rw [Table.keys_set]
  split
  · exact distinct
  · rename_i new
    refine List.nodup_append.mpr ⟨distinct, List.pairwise_singleton _ _, ?_⟩
    rintro other listed last only rfl
    exact new (List.mem_singleton.mp only ▸ listed)

def ContentSource.served? (source : ContentSource) (resolved : Resolved) : Option (List String) :=
  match resolved.request with
  | .error _ => none
  | .ok request =>
      match source.serve request with
      | .error _ => none
      | .ok text => some (lines text)

/-- The log says that the file of the path could not be fetched. -/
def FetchFailed (events : List Event) (path : String) : Prop :=
  ∃ kind reason, Event.noticed (.failedFetch kind path reason) ∈ events

theorem fetch_failed_append (first second : List Event) (path : String) :
    FetchFailed (first ++ second) path ↔ FetchFailed first path ∨ FetchFailed second path := by
  simp only [FetchFailed, List.mem_append, exists_or]

namespace ContentCache

theorem get_put (cache : ContentCache) (path other : String) (lines : List String) :
    (cache.put path lines).get? other = if path = other then some lines else cache.get? other := by
  rw [put, get?, Table.get_set]
  rfl

/-- The lines at an address, if they are cached or can be fetched. -/
def available? (source : ContentSource) (cache : ContentCache) (resolved : Resolved) :
    Option (List String) :=
  (cache.get? resolved.canonicalPath).or (source.served? resolved)

section Fetch

variable {source : ContentSource} {cache : ContentCache} {document : Document} {target : String}
  {resolved : Resolved}

theorem fetch_unresolved {reason : Unresolvable}
    (unresolved : cache.resolve document target = .error reason) :
    cache.fetch source document target =
      ⟨none, [], cache, [.noticed (.skippedInclude target reason)]⟩ := by
  simp only [fetch, unresolved]

theorem fetch_held {lines : List String} (resolves : cache.resolve document target = .ok resolved)
    (held : cache.get? resolved.canonicalPath = some lines) :
    cache.fetch source document target = ⟨some resolved.canonicalPath, lines, cache, []⟩ := by
  simp only [fetch, resolves, held]

theorem fetch_downloaded {request : Request} {text : String}
    (resolves : cache.resolve document target = .ok resolved)
    (missing : cache.get? resolved.canonicalPath = none)
    (asks : resolved.request = .ok request) (serves : source.serve request = .ok text) :
    cache.fetch source document target = ⟨some resolved.canonicalPath, lines text,
      cache.put resolved.canonicalPath (lines text), [.requested request]⟩ := by
  simp only [fetch, resolves, missing, asks, serves]

/-- The source has no text for the address: there is nothing to ask for, or the call fails. -/
def Refuses (source : ContentSource) (resolved : Resolved) : Prop :=
  ∀ request text, resolved.request = .ok request → source.serve request ≠ .ok text

theorem refuses_or_serves (source : ContentSource) (resolved : Resolved) :
    Refuses source resolved ∨
      ∃ request text, resolved.request = .ok request ∧ source.serve request = .ok text := by
  by_cases serves : ∃ request text, resolved.request = .ok request ∧
      source.serve request = .ok text
  · exact .inr serves
  · exact .inl fun request text asks answers => serves ⟨request, text, asks, answers⟩

/-- If the source refuses an address, no call is answered, and the cache stays as it is. -/
theorem fetch_refused (resolves : cache.resolve document target = .ok resolved)
    (missing : cache.get? resolved.canonicalPath = none) (refuses : Refuses source resolved) :
    ∃ events, cache.fetch source document target =
        ⟨some resolved.canonicalPath, [], cache, events⟩ ∧
      ∀ request text, Event.requested request ∈ events → source.serve request ≠ .ok text := by
  simp only [fetch, resolves, missing]
  cases asks : resolved.request with
  | error reason => exact ⟨_, rfl, by simp⟩
  | ok request =>
      dsimp only
      cases serves : source.serve request with
      | error reason =>
          refine ⟨_, rfl, ?_⟩
          intro other text called
          have same : other = request := by simpa using called
          rw [same]
          exact refuses request text asks
      | ok text => exact absurd serves (refuses request text asks)

/-- A target with an address is found in the cache, or it cannot be fetched, or it is fetched and
stored. -/
theorem fetch_cases (source : ContentSource)
    (resolves : cache.resolve document target = .ok resolved) :
    (∃ held, cache.get? resolved.canonicalPath = some held ∧
      cache.fetch source document target = ⟨some resolved.canonicalPath, held, cache, []⟩) ∨
    (cache.get? resolved.canonicalPath = none ∧ source.served? resolved = none ∧
      ∃ (requests : List Request) (reason : String),
        cache.fetch source document target = ⟨some resolved.canonicalPath, [], cache,
          requests.map .requested ++
            [.noticed (.failedFetch resolved.kind resolved.canonicalPath reason)]⟩) ∨
    (cache.get? resolved.canonicalPath = none ∧
      ∃ request lines, source.served? resolved = some lines ∧
        cache.fetch source document target = ⟨some resolved.canonicalPath, lines,
          cache.put resolved.canonicalPath lines, [.requested request]⟩) := by
  simp only [fetch, resolves, ContentSource.served?]
  cases cache.get? resolved.canonicalPath with
  | some held => exact .inl ⟨held, rfl, rfl⟩
  | none =>
      right
      cases resolved.request with
      | error reason => exact .inl ⟨rfl, rfl, [], reason.message, rfl⟩
      | ok request =>
          dsimp only
          cases source.serve request with
          | error reason => exact .inl ⟨rfl, rfl, [request], reason.message, rfl⟩
          | ok text => exact .inr ⟨rfl, request, lines text, rfl, rfl⟩

theorem path_of_fetch (source : ContentSource)
    (resolves : cache.resolve document target = .ok resolved) :
    (cache.fetch source document target).path = some resolved.canonicalPath := by
  rcases fetch_cases source resolves with
      ⟨held, _, fetched⟩ | ⟨_, _, requests, reason, fetched⟩ | ⟨_, request, lines, _, fetched⟩
  all_goals rw [fetched]

theorem lines_of_fetch (source : ContentSource)
    (resolves : cache.resolve document target = .ok resolved) :
    (cache.fetch source document target).lines = (cache.available? source resolved).getD [] := by
  unfold available?
  rcases fetch_cases source resolves with
      ⟨held, found, fetched⟩ | ⟨missing, failed, requests, reason, fetched⟩ |
      ⟨missing, request, lines, served, fetched⟩
  · rw [fetched, found]
    rfl
  · rw [fetched, missing, failed]
    rfl
  · rw [fetched, missing, served]
    rfl

theorem fetch_failed_iff (source : ContentSource)
    (resolves : cache.resolve document target = .ok resolved) (path : String) :
    FetchFailed (cache.fetch source document target).events path ↔
      resolved.canonicalPath = path ∧ cache.available? source resolved = none := by
  unfold available? FetchFailed
  rcases fetch_cases source resolves with
      ⟨held, found, fetched⟩ | ⟨missing, failed, requests, reason, fetched⟩ |
      ⟨missing, request, lines, served, fetched⟩
  · rw [fetched, found]
    simp
  · rw [fetched, missing, failed]
    simp [eq_comm]
  · rw [fetched, missing, served]
    simp

/-- Fetching a target holds what can be had at its path, and changes nothing else. -/
theorem get_fetch (source : ContentSource)
    (resolves : cache.resolve document target = .ok resolved) (path : String) :
    (cache.fetch source document target).cache.get? path =
      if resolved.canonicalPath = path then cache.available? source resolved
      else cache.get? path := by
  unfold available?
  rcases fetch_cases source resolves with
      ⟨held, found, fetched⟩ | ⟨missing, failed, requests, reason, fetched⟩ |
      ⟨missing, request, lines, served, fetched⟩
  · rw [fetched]
    split
    · rename_i same
      rw [← same, found]
      rfl
    · rfl
  · rw [fetched]
    split
    · rename_i same
      rw [← same, missing, failed]
      rfl
    · rfl
  · rw [fetched, put, get?, Table.get_set, missing, served]
    rfl

end Fetch

theorem home_fetch (source : ContentSource) (cache : ContentCache) (document : Document)
    (target : String) : (cache.fetch source document target).cache.home = cache.home := by
  cases resolves : cache.resolve document target with
  | error reason => rw [fetch_unresolved resolves]
  | ok resolved =>
      rcases fetch_cases source resolves with
          ⟨held, _, fetched⟩ | ⟨_, _, requests, reason, fetched⟩ | ⟨_, request, lines, _, fetched⟩
      · rw [fetched]
      · rw [fetched]
      · rw [fetched, put]

section Refresh

variable {cache : ContentCache} {document : Document} {path : String}

theorem refresh_tracked (resolves : canonicalPath cache.home document = .ok path)
    (held : cache.holds path = true) (text : String) :
    cache.refresh document text =
      (true, cache.put path (lines text), [.noticed (.refreshed path)]) := by
  simp only [refresh, resolves, held, if_true]

theorem refresh_untracked
    (untracked : ∀ path, canonicalPath cache.home document = .ok path → cache.holds path = false)
    (text : String) : cache.refresh document text = (false, cache, []) := by
  unfold refresh
  cases resolves : canonicalPath cache.home document with
  | error reason => rfl
  | ok path => simp only [untracked path resolves, Bool.false_eq_true, if_false]

end Refresh

/-- The second cache has the same lines as the first for whatever the document may include. -/
structure AnswersAlike (source : ContentSource) (document : Document)
    (before after : ContentCache) : Prop where
  home : after.home = before.home
  lines : ∀ target resolved, before.resolve document target = .ok resolved →
    after.available? source resolved = before.available? source resolved

namespace AnswersAlike

variable {source : ContentSource} {document : Document} {first second third : ContentCache}

theorem refl (source : ContentSource) (document : Document) (cache : ContentCache) :
    AnswersAlike source document cache cache :=
  ⟨rfl, fun _ _ _ => rfl⟩

theorem resolve_eq (alike : AnswersAlike source document first second) (target : String) :
    second.resolve document target = first.resolve document target := by
  rw [resolve, resolve, alike.home]

theorem trans (left : AnswersAlike source document first second)
    (right : AnswersAlike source document second third) :
    AnswersAlike source document first third := by
  refine ⟨right.home.trans left.home, ?_⟩
  intro target resolved resolves
  have moved := (left.resolve_eq target).trans resolves
  exact (right.lines target resolved moved).trans (left.lines target resolved resolves)

end AnswersAlike

/-- What a document fetches is the same to every document of its scheme. -/
theorem fetch_answers_alike (source : ContentSource) (cache : ContentCache)
    {document other : Document} (scheme : document.scheme = other.scheme) (target : String) :
    AnswersAlike source other cache (cache.fetch source document target).cache := by
  refine ⟨home_fetch source cache document target, ?_⟩
  intro asked found finds
  cases resolves : cache.resolve document target with
  | error reason => rw [fetch_unresolved resolves]
  | ok resolved =>
      rw [available?, get_fetch source resolves]
      split
      · rename_i same
        have kind := kind_of_scheme resolves finds scheme
        rw [resolved_of_kind resolves finds kind same, available?, Option.or_assoc,
          Option.or_self]
      · rw [available?]

end ContentCache

end RpgSymbols
