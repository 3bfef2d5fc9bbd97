import RpgSymbols.Cache.Model
import RpgSymbols.Json.Parser

/-!
An editing session: the texts the editor reported, the lines of included files and the finished
models. Every operation answers a value, the session afterwards and what happened; the content
source may answer differently from one operation to the next.
-/

namespace RpgSymbols

open Text

structure Workspace where
  content : ContentCache := {}
  models : ModelCache := []
  texts : Table String := []

structure Reply (α : Type) where
  value : α
  workspace : Workspace
  events : List Event

/-- A style checker: it is given a text, options and the model of the text. -/
abbrev Linter := String → Table Json → Option Model → List Json

namespace Workspace

/-- The model of a document: the finished one, or one built from the text given or else from the
text last reported. -/
def getModel (source : ContentSource) (workspace : Workspace) (document : Document)
    (text : Option String) : Reply (Option Model) :=
  match Table.get? document.path workspace.models with
  | some model => ⟨some model, workspace, []⟩
  | none =>
      match text <|> Table.get? document.path workspace.texts with
      | none => ⟨none, workspace, []⟩
      | some text =>
          let built := buildModel source workspace.content document text
          ⟨some built.model,
            { workspace with
              content := built.cache
              models := Table.set document.path built.model workspace.models },
            built.events⟩

def invalidate (workspace : Workspace) (document : Document) : Reply Bool :=
  let (dropped, models, events) := ModelCache.invalidate workspace.models document
  ⟨dropped, { workspace with models := models }, events⟩

def resolveTarget (workspace : Workspace) (document : Document) (target : String) :
    Except Unresolvable Resolved :=
  workspace.content.resolve document target

def includeAt (workspace : Workspace) (document : Document) (line : String) : Option Resolved :=
  match includeTarget? line with
  | none => none
  | some target => (workspace.resolveTarget document target).toOption

def recordText (workspace : Workspace) (document : Document) (text : String) : Workspace :=
  { workspace with texts := Table.set document.path text workspace.texts }

/-- Fetches targets one after the other, for their lines to be held. -/
def fetchAll (source : ContentSource) (document : Document) :
    Workspace → List String → Reply Unit
  | workspace, [] => ⟨(), workspace, []⟩
  | workspace, target :: rest =>
      let fetched := workspace.content.fetch source document target
      let reply := fetchAll source document { workspace with content := fetched.cache } rest
      ⟨(), reply.workspace, fetched.events ++ reply.events⟩

/-- Drops the finished model of a document and fetches what its text includes. A document without
a finished model is left alone. -/
def updateIncludes (source : ContentSource) (workspace : Workspace) (document : Document)
    (text : String) : Reply Unit :=
  let dropped := workspace.invalidate document
  if dropped.value then
    let fetched := fetchAll source document dropped.workspace (includeTargets (lines text))
    ⟨(), fetched.workspace, dropped.events ++ fetched.events⟩
  else ⟨(), dropped.workspace, dropped.events⟩

/-- A document changed: its text is recorded, its model dropped, and free-format source is
assembled again. -/
def onChange (source : ContentSource) (workspace : Workspace) (document : Document)
    (text : String) : Reply (Option Model) :=
  let dropped := (workspace.recordText document text).invalidate document
  if isFreeFormat text then
    let reply := dropped.workspace.getModel source document (some text)
    ⟨reply.value, reply.workspace, dropped.events ++ reply.events⟩
  else ⟨none, dropped.workspace, dropped.events⟩

def onClose (workspace : Workspace) (document : Document) : Reply Unit :=
  let forgotten := { workspace with texts := Table.remove document.path workspace.texts }
  let dropped := forgotten.invalidate document
  ⟨(), dropped.workspace, dropped.events⟩

/-- A document was saved. If other documents may have included it every model is dropped. -/
def onSave (source : ContentSource) (workspace : Workspace) (document : Document)
    (text : String) : Reply Unit :=
  let recorded := workspace.recordText document text
  let (tracked, content, events) := recorded.content.refresh document text
  if tracked then
    ⟨(), { recorded with content := content, models := [] },
      events ++ [.noticed (.includeSaved document.path)]⟩
  else if isFreeFormat text then
    let updated := updateIncludes source { recorded with content := content } document text
    ⟨(), updated.workspace, events ++ updated.events⟩
  else ⟨(), { recorded with content := content }, events⟩

end Workspace

end RpgSymbols
