import RpgSymbols.Cache.Event
import RpgSymbols.Table

/-!
The content cache holds the lines of files by canonical path. A file is fetched when it is first
asked for, and its lines stay until the file is saved or stored again.
-/

namespace RpgSymbols

open Text

/-- The lines of files, and the directory relative stream files are below. -/
structure ContentCache where
  home : String := "/"
  files : Table (List String) := []
  deriving Repr

/-- What fetching a target gives: the canonical path if the target has one, the lines, the cache
afterwards, and what happened. -/
structure Fetched where
  path : Option String
  lines : List String
  cache : ContentCache
  events : List Event

namespace ContentCache

def get? (cache : ContentCache) (path : String) : Option (List String) :=
  Table.get? path cache.files

def holds (cache : ContentCache) (path : String) : Bool := (cache.get? path).isSome

def put (cache : ContentCache) (path : String) (lines : List String) : ContentCache :=
  { cache with files := Table.set path lines cache.files }

def resolve (cache : ContentCache) (document : Document) (target : String) :
    Except Unresolvable Resolved :=
  RpgSymbols.resolve cache.home document target

/-- Fetches a target. A target that has no address, or that the source does not serve, has no
lines, and the cache stays as it is. -/
def fetch (source : ContentSource) (cache : ContentCache) (document : Document)
    (target : String) : Fetched :=
  match cache.resolve document target with
  | .error reason => ⟨none, [], cache, [.noticed (.skippedInclude target reason)]⟩
  | .ok resolved =>
      let path := resolved.canonicalPath
      match cache.get? path with
      | some held => ⟨some path, held, cache, []⟩
      | none =>
          match resolved.request with
          | .error reason =>
              ⟨some path, [], cache, [.noticed (.failedFetch resolved.kind path reason.message)]⟩
          | .ok request =>
              match source.serve request with
              | .error reason =>
                  ⟨some path, [], cache, [.requested request,
                    .noticed (.failedFetch resolved.kind path reason.message)]⟩
              | .ok text =>
                  ⟨some path, lines text, cache.put path (lines text), [.requested request]⟩

/-- Takes in the text of a saved document whose lines are held. Answers the cache afterwards and
whether it changed. -/
def refresh (cache : ContentCache) (document : Document) (text : String) :
    Bool × ContentCache × List Event :=
  match canonicalPath cache.home document with
  | .error _ => (false, cache, [])
  | .ok path =>
      if cache.holds path then (true, cache.put path (lines text), [.noticed (.refreshed path)])
      else (false, cache, [])

end ContentCache

end RpgSymbols
