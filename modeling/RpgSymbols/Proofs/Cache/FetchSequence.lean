import RpgSymbols.Proofs.Cache.Fetching

/-!
Fetches one after the other. The first call that is served at a path decides what every later call
is answered there. Documents of one scheme do not notice this, since they share a path only if they
share an address. A member and a stream file can have the same path, and then the one fetched
later gets the lines of the other.
-/

namespace RpgSymbols

open Text

/-- What a call is served, with its address, if it asks for the path. -/
def servedAt? (source : ContentSource) (home path : String) (call : Document × String) :
    Option (Resolved × List String) :=
  match resolve home call.1 call.2 with
  | .error _ => none
  | .ok resolved =>
      if resolved.canonicalPath = path then (source.served? resolved).map (resolved, ·) else none

/-- The lines at the address of a target. There are none without an address, or if it cannot be
fetched. -/
def ownLines (source : ContentSource) (home : String) (document : Document) (target : String) :
    List String :=
  match resolve home document target with
  | .error _ => []
  | .ok resolved => (source.served? resolved).getD []

theorem served_at_iff {source : ContentSource} {home path : String} {call : Document × String}
    {resolved : Resolved} {lines : List String} :
    servedAt? source home path call = some (resolved, lines) ↔
      resolve home call.1 call.2 = .ok resolved ∧ resolved.canonicalPath = path ∧
        source.served? resolved = some lines := by
  unfold servedAt?
  cases resolves : resolve home call.1 call.2 with
  | error reason => simp
  | ok found =>
      by_cases here : found.canonicalPath = path
      · simp only [here, if_true, Option.map_eq_some_iff, Prod.mk.injEq, Except.ok.injEq]
        constructor
        · rintro ⟨_, served, rfl, rfl⟩
          exact ⟨rfl, here, served⟩
        · rintro ⟨rfl, _, served⟩
          exact ⟨lines, served, rfl, rfl⟩
      · simp only [here, if_false, Except.ok.injEq]
        constructor
        · intro nothing
          cases nothing
        · rintro ⟨rfl, there, _⟩
          exact absurd there here

/-- A call that addresses the path of a target in the same way is served the lines of the target. -/
theorem first_served_own {source : ContentSource} {home target : String} {document : Document}
    {calls : List (Document × String)} {resolved other : Resolved} {lines : List String}
    (resolves : resolve home document target = .ok resolved)
    (first : calls.findSome? (servedAt? source home resolved.canonicalPath) = some (other, lines))
    (kind : other.kind = resolved.kind) : source.served? resolved = some lines := by
  obtain ⟨call, _, found⟩ := List.exists_of_findSome?_eq_some first
  obtain ⟨finds, path, served⟩ := served_at_iff.mp found
  rw [← resolved_of_kind finds resolves kind path]
  exact served

namespace ContentCache

def afterFetches (source : ContentSource) (cache : ContentCache)
    (calls : List (Document × String)) : ContentCache :=
  calls.foldl (fun cache call => (cache.fetch source call.1 call.2).cache) cache

theorem after_fetches_cons (source : ContentSource) (cache : ContentCache)
    (call : Document × String) (rest : List (Document × String)) :
    cache.afterFetches source (call :: rest) =
      (cache.fetch source call.1 call.2).cache.afterFetches source rest := by
  simp only [afterFetches, List.foldl_cons]

theorem get_fetch_served (source : ContentSource) (cache : ContentCache)
    (call : Document × String) (path : String) :
    (cache.fetch source call.1 call.2).cache.get? path =
      (cache.get? path).or ((servedAt? source cache.home path call).map Prod.snd) := by
  cases resolves : cache.resolve call.1 call.2 with
  | error reason =>
      rw [fetch_unresolved resolves]
      rw [resolve] at resolves
      rw [servedAt?, resolves]
      exact Option.or_none.symm
  | ok resolved =>
      rw [get_fetch source resolves]
      rw [resolve] at resolves
      rw [servedAt?, resolves]
      dsimp only
      split
      · rename_i same
        have answer : (Prod.snd ∘ fun lines : List String => (resolved, lines)) = id := rfl
        rw [available?, same, Option.map_map, answer, Option.map_id_apply]
      · exact Option.or_none.symm

/-- The first call that is served decides what is held, unless lines are held before. -/
theorem get_after_fetches (source : ContentSource) (cache : ContentCache)
    (calls : List (Document × String)) (path : String) :
    (cache.afterFetches source calls).get? path =
      (cache.get? path).or
        ((calls.findSome? (servedAt? source cache.home path)).map Prod.snd) := by
  induction calls generalizing cache with
  | nil => exact Option.or_none.symm
  | cons call rest induction =>
      have later := induction (cache.fetch source call.1 call.2).cache
      rw [home_fetch, get_fetch_served, Option.or_assoc] at later
      rw [after_fetches_cons, later, List.findSome?_cons]
      cases servedAt? source cache.home path call <;> rfl

theorem home_after_fetches (source : ContentSource) (cache : ContentCache)
    (calls : List (Document × String)) :
    (cache.afterFetches source calls).home = cache.home := by
  induction calls generalizing cache with
  | nil => rfl
  | cons call rest induction =>
      rw [after_fetches_cons, induction, home_fetch]

theorem resolve_after_fetches (source : ContentSource) (cache : ContentCache)
    (calls : List (Document × String)) (document : Document) (target : String) :
    (cache.afterFetches source calls).resolve document target = cache.resolve document target := by
  rw [resolve, resolve, home_after_fetches]

/-- The first call that was served at the path of a target answers for it. Only if there is none,
the target is served itself. -/
theorem lines_after_fetches (source : ContentSource) {cache : ContentCache} {document : Document}
    {target : String} {resolved : Resolved}
    (resolves : cache.resolve document target = .ok resolved)
    (empty : cache.get? resolved.canonicalPath = none) (calls : List (Document × String)) :
    ((cache.afterFetches source calls).fetch source document target).lines =
      (((calls.findSome? (servedAt? source cache.home resolved.canonicalPath)).map Prod.snd).or
        (source.served? resolved)).getD [] := by
  have address := (resolve_after_fetches source cache calls document target).trans resolves
  rw [lines_of_fetch source address, available?, get_after_fetches, empty, Option.none_or]

/-- Calls of one scheme are invisible to the documents of that scheme. -/
theorem after_fetches_answers_alike {source : ContentSource} {document : Document}
    (cache : ContentCache) (calls : List (Document × String))
    (scheme : ∀ call ∈ calls, call.1.scheme = document.scheme) :
    AnswersAlike source document cache (cache.afterFetches source calls) := by
  induction calls generalizing cache with
  | nil => exact .refl source document cache
  | cons call rest induction =>
      have first := fetch_answers_alike source cache (scheme call List.mem_cons_self) call.2
      have others := induction (cache.fetch source call.1 call.2).cache
        fun other later => scheme other (List.mem_cons_of_mem _ later)
      rw [after_fetches_cons]
      exact first.trans others

/-- What a document asks for among calls of its scheme is held afterwards, if it can be had. -/
theorem get_of_asked {source : ContentSource} {document : Document} {target : String}
    {resolved : Resolved} (cache : ContentCache) (calls : List (Document × String))
    (scheme : ∀ call ∈ calls, call.1.scheme = document.scheme)
    (asked : (document, target) ∈ calls)
    (resolves : cache.resolve document target = .ok resolved) :
    (cache.afterFetches source calls).get? resolved.canonicalPath =
      cache.available? source resolved := by
  rw [resolve] at resolves
  rw [get_after_fetches, available?]
  refine congrArg (Option.or (cache.get? resolved.canonicalPath)) ?_
  cases first : calls.findSome? (servedAt? source cache.home resolved.canonicalPath) with
  | none =>
      have unserved := List.findSome?_eq_none_iff.mp first _ asked
      cases served : source.served? resolved with
      | none => rfl
      | some lines =>
          have answered : servedAt? source cache.home resolved.canonicalPath (document, target) =
              some (resolved, lines) := served_at_iff.mpr ⟨resolves, rfl, served⟩
          rw [answered] at unserved
          cases unserved
  | some found =>
      obtain ⟨other, lines⟩ := found
      obtain ⟨call, listed, answered⟩ := List.exists_of_findSome?_eq_some first
      have finds := (served_at_iff.mp answered).1
      have kind := kind_of_scheme finds resolves (scheme call listed)
      rw [first_served_own resolves first kind]
      rfl

end ContentCache

/-- A target is answered with its own lines, whatever was fetched before, unless the first call
served at its path addresses that path in the other way and is served other lines there. -/
theorem fetch_own_lines_iff (source : ContentSource) (home : String)
    (calls : List (Document × String)) (document : Document) (target : String) :
    let empty : ContentCache := { home := home }
    (empty.fetch source document target).lines = ownLines source home document target ∧
    (((empty.afterFetches source calls).fetch source document target).lines =
        ownLines source home document target ↔
      ∀ resolved other lines, resolve home document target = .ok resolved →
        calls.findSome? (servedAt? source home resolved.canonicalPath) = some (other, lines) →
        other.kind ≠ resolved.kind → lines = ownLines source home document target) := by
  intro empty
  cases resolves : resolve home document target with
  | error reason =>
      have own : ownLines source home document target = [] := by rw [ownLines, resolves]
      have nothing : ∀ calls,
          ((empty.afterFetches source calls).fetch source document target).lines = [] := by
        intro calls
        have address := ContentCache.resolve_after_fetches source empty calls document target
        rw [ContentCache.fetch_unresolved (address.trans resolves)]
      rw [own]
      refine ⟨nothing [], iff_of_true (nothing calls) ?_⟩
      intro resolved other lines found
      cases found
  | ok resolved =>
      have own : ownLines source home document target = (source.served? resolved).getD [] := by
        rw [ownLines, resolves]
      have address : empty.resolve document target = .ok resolved := resolves
      have answer := ContentCache.lines_after_fetches source address rfl
      rw [own]
      refine ⟨answer [], ?_⟩
      rw [answer calls]
      cases first : calls.findSome? (servedAt? source home resolved.canonicalPath) with
      | none =>
          apply iff_of_true rfl
          rintro _ other lines ⟨rfl⟩ found
          rw [first] at found
          cases found
      | some served =>
          obtain ⟨other, lines⟩ := served
          constructor
          · rintro same _ _ _ ⟨rfl⟩ found _
            rw [first] at found
            cases found
            exact same
          · intro differ
            by_cases kind : other.kind = resolved.kind
            · rw [first_served_own resolves first kind]
              rfl
            · exact differ resolved other lines rfl first kind

def ContentSource.ofFiles (members : List (MemberAddress × String)) (streams : Table String) :
    ContentSource where
  serve
    | .member address => (members.lookup address).elim
        (.error (.unavailable ("no member " ++ address.library ++ "/" ++ address.member))) .ok
    | .stream path => (Table.get? path streams).elim
        (.error (.unavailable ("no stream " ++ path))) .ok

/-- The stream file `/LIB/FILE/M` is answered with the lines of the member of that path, which was
fetched before. -/
theorem member_answers_for_stream :
    let source := ContentSource.ofFiles [(⟨none, "LIB", "FILE", "M"⟩, "member")]
      [("/LIB/FILE/M", "stream")]
    let empty : ContentCache := {}
    let before := empty.afterFetches source [(⟨"member", "/LIB/FILE/PGM"⟩, "m")]
    (before.fetch source ⟨"streamfile", "/A"⟩ "/lib/file/m").lines = ["member"] ∧
      (empty.fetch source ⟨"streamfile", "/A"⟩ "/lib/file/m").lines = ["stream"] := by
  decide +kernel

end RpgSymbols
