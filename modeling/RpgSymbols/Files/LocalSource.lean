import RpgSymbols.Cache.Event
import RpgSymbols.Files.Resolve
import RpgSymbols.Text.Case.Upper
import RpgSymbols.Text.Utf8

/-!
A content source backed by a file tree. Stream files are at their path below the root, members at
`[GROUP/]LIBRARY/FILE/MEMBER.extension`. Canonical paths are in upper case, so names are compared
in any case; a name that is there as it is written comes first. Nothing outside the root is served.
-/

namespace RpgSymbols

open Text

/-- The failure of a source whose path could not be resolved. A walk from a root without a null
character goes along listed names, which have none, so `embeddedNull` does not arise there. -/
def ResolveError.asSourceError : ResolveError → SourceError
  | .linkLoop path => .linkLoop path
  | .embeddedNull => .unavailable ResolveError.embeddedNull.message

/-- A directory of a file tree that serves as the root of the host. -/
structure LocalSource where
  tree : FileTree
  root : List String

namespace LocalSource

def listing (source : LocalSource) (names : List String) : List String :=
  match source.tree.locate names with
  | .ok place => source.tree.namesIn place
  | .error _ => []

/-- The path of a child: the one named as written, or the first one named so in another case. -/
def child? (source : LocalSource) (directory : List String) (name : String) :
    Option (List String) :=
  let exact := joinNames directory name
  if source.tree.leadsSomewhere exact then some exact
  else
    let wanted := upper name
    ((source.listing directory).find? fun other => upper other = wanted).map fun other =>
      directory ++ [other]

/-- The path that the given names lead to, from directory to directory. -/
def descend (source : LocalSource) (here : List String) : List String → Option (List String)
  | [] => some here
  | name :: rest =>
      if name = "." || name = ".." || !source.tree.isDirectory here then none
      else
        match source.child? here name with
        | none => none
        | some next => source.descend next rest

def locate (source : LocalSource) (names : List String) :
    Except ResolveError (Option (List String)) :=
  match source.descend source.root names with
  | none => .ok none
  | some path => do
      if ← source.tree.isWithin source.root path then return some path else return none

def readAt (source : LocalSource) (path : List String) : Except SourceError String :=
  let unreadable (reason : String) : Except SourceError String :=
    .error (.unavailable ("Cannot read " ++ Place.text path ++ ": " ++ reason))
  match source.tree.read path with
  | .error error => unreadable error.reason
  | .ok bytes =>
      match readText? bytes with
      | none => unreadable "invalid UTF-8"
      | some text => .ok text

def serveStream (source : LocalSource) (path : String) : Except SourceError String :=
  match source.locate ((split '/' path).filter fun name => !name.isEmpty) with
  | .error error => .error error.asSourceError
  | .ok found =>
      match found.filter source.tree.isFile with
      | some names => source.readAt names
      | none => .error (.unavailable ("Stream file not found: " ++ path))

/-- The path of the first file in a directory whose name up to its first dot is the member's. -/
def memberFile? (source : LocalSource) (directory : List String) (member : String) :
    Option (List String) :=
  let wanted := upper member
  ((source.listing directory).find? fun name =>
    source.tree.isFile (directory ++ [name]) && upper (before '.' name) = wanted).map fun name =>
      directory ++ [name]

def locateMember (source : LocalSource) (parts : List String) (member : String) :
    Except ResolveError (Option (List String)) := do
  match ← source.locate parts with
  | none => return none
  | some directory =>
      match source.memberFile? directory member with
      | none => return none
      | some path =>
          if ← source.tree.isWithin source.root path then return some path else return none

def serveMember (source : LocalSource) (address : MemberAddress) : Except SourceError String :=
  let group := address.group.filter fun name => !name.isEmpty
  let parts := group.toList ++ [address.library, address.file]
  match source.locateMember parts address.member with
  | .error error => .error error.asSourceError
  | .ok (some path) => source.readAt path
  | .ok none =>
      .error (.unavailable ("Member not found: " ++ join "/" (parts ++ [address.member])))

def toContentSource (source : LocalSource) : ContentSource where
  serve
    | .member address => source.serveMember address
    | .stream path => source.serveStream path

end LocalSource

end RpgSymbols
