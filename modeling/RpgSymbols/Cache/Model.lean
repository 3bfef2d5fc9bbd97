import RpgSymbols.Cache.Content
import RpgSymbols.Include.Directive
import RpgSymbols.Source.Assembler

/-!
Models of documents and the files they include. The document comes first, then its includes from
the last directive to the first, each file once.
-/

namespace RpgSymbols

open Text

structure Discovered where
  files : Table (List String)
  cache : ContentCache
  events : List Event

/-- Adds the file of one more target. A target without an address adds none, and one that could not
be fetched adds a file without lines. -/
def Discovered.addTarget (source : ContentSource) (document : Document) (found : Discovered)
    (target : String) : Discovered :=
  let fetched := found.cache.fetch source document target
  let files :=
    match fetched.path with
    | none => found.files
    | some path =>
        if Table.hasKey path found.files then found.files
        else found.files ++ [(path, fetched.lines)]
  ⟨files, fetched.cache, found.events ++ fetched.events⟩

/-- The files of a document: itself and its includes. -/
def discover (source : ContentSource) (cache : ContentCache) (document : Document)
    (lines : List String) : Discovered :=
  (includeTargets lines).foldl (Discovered.addTarget source document)
    ⟨[(document.path, lines)], cache, []⟩

structure Built where
  model : Model
  cache : ContentCache
  events : List Event

def buildModel (source : ContentSource) (cache : ContentCache) (document : Document)
    (text : String) : Built :=
  let found := discover source cache document (lines text)
  let model := assemble found.files
  ⟨model, found.cache,
    found.events ++ [.noticed (.built document.path found.files.length model.size)]⟩

/-- Finished models by the identity of their document. -/
abbrev ModelCache := Table Model

namespace ModelCache

def invalidate (models : ModelCache) (document : Document) : Bool × ModelCache × List Event :=
  if Table.hasKey document.path models then
    (true, Table.remove document.path models, [.noticed (.invalidated document.path)])
  else (false, models, [])

end ModelCache

end RpgSymbols
