import RpgSymbols.Workspace.Session

/-!
Linter options. They are a file of the session like any include, resolved against the document, and
may also be seeded by opening the file in the editor.
-/

namespace RpgSymbols

open Text

def linterTarget? (scheme : String) : Option String :=
  (Addressing.ofName? scheme).map fun
    | .member => "vscode,rpglint"
    | .streamFile => ".vscode/rpglint.json"

/-- What the path of an options file contains. -/
def linterMarker : String := "RPGLINT"

namespace Workspace

def linterPath? (workspace : Workspace) (document : Document) : Option Resolved := do
  let target ← linterTarget? document.scheme
  (workspace.resolveTarget document target).toOption

/-- Fetches the options of a document, for their lines to be held. -/
def loadLinterOptions (source : ContentSource) (workspace : Workspace) (document : Document) :
    Reply Unit :=
  match linterTarget? document.scheme with
  | none => ⟨(), workspace, []⟩
  | some target => fetchAll source document workspace [target]

def openedLinterPath (document : Document) : String :=
  let path := upper document.path
  if document.scheme = Addressing.member.name && endsWith path ".JSON" then
    String.ofList (path.toList.take (path.length - 5))
  else path

/-- Holds the text of an opened options file, unless lines are held for it already. -/
def trackLinterOptions (workspace : Workspace) (document : Document) (text : String) : Workspace :=
  let path := openedLinterPath document
  if contains path linterMarker && !workspace.content.holds path then
    { workspace with content := workspace.content.put path [text] }
  else workspace

def onOpen (source : ContentSource) (workspace : Workspace) (document : Document)
    (text language : String) : Reply (Option Model) :=
  if language = "json" then ⟨none, workspace.trackLinterOptions document text, []⟩
  else if language ≠ "rpgle" then ⟨none, workspace, []⟩
  else
    let recorded := workspace.recordText document text
    if isFreeFormat text then
      let updated := recorded.updateIncludes source document text
      let loaded := updated.workspace.loadLinterOptions source document
      let reply := loaded.workspace.getModel source document (some text)
      ⟨reply.value, reply.workspace, updated.events ++ loaded.events ++ reply.events⟩
    else ⟨none, recorded, []⟩

/-- The options held in the lines of a file. Lines are joined without a break: in JSON a line break
never stands inside a token. -/
def parseLinterOptions (lines : List String) : Option (Table Json) :=
  let text := trim (join "" lines)
  if text.isEmpty then some []
  else
    match Json.parse? text with
    | none => none
    | some (.obj fields) => some fields
    | some _ => some []

/-- The linter options of a document, empty unless its options file is held and holds an object. -/
def linterOptions (workspace : Workspace) (document : Document) : Table Json × List Event :=
  match workspace.linterPath? document with
  | none => ([], [])
  | some resolved =>
      let path := resolved.canonicalPath
      match parseLinterOptions ((workspace.content.get? path).getD []) with
      | some options => (options, [])
      | none => ([], [.noticed (.invalidLinterOptions path)])

/-- Runs the linter over free-format source. The options of the document come after the indent and
may replace it. -/
def lint (source : ContentSource) (linter : Option Linter) (workspace : Workspace)
    (document : Document) (text : String) (indent : Int) : Reply (List Json) :=
  match linter with
  | none => ⟨[], workspace, []⟩
  | some check =>
      if isFreeFormat text then
        let (own, events) := workspace.linterOptions document
        let options := own.foldl (fun table field => Table.set field.1 field.2 table)
          [("indent", Json.int indent)]
        let reply := workspace.getModel source document (some text)
        ⟨check text options reply.value, reply.workspace, events ++ reply.events⟩
      else ⟨[], workspace, []⟩

end Workspace

end RpgSymbols
