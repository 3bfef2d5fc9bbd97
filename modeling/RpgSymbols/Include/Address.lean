import RpgSymbols.Files.SlashPath
import RpgSymbols.Text.Case.Upper

/-!
Addresses of included files. A target is resolved against the document it stands in: a stream file
by its path, below the home directory unless it is absolute; a member by storage group, library,
source file and name, what the target leaves out being taken from the document. The host compares
both without regard to case, so canonical paths are in upper case.
-/

namespace RpgSymbols

open Text SlashPath

inductive Addressing where
  | member
  | streamFile
  deriving DecidableEq, Repr

def Addressing.name : Addressing → String
  | .member => "member"
  | .streamFile => "streamfile"

def Addressing.ofName? (name : String) : Option Addressing :=
  if name = "member" then some .member
  else if name = "streamfile" then some .streamFile
  else none

/-- A document as the editor reports it. Its path is its identity. -/
structure Document where
  scheme : String
  path : String
  deriving DecidableEq, Repr

structure MemberAddress where
  group : Option String
  library : String
  file : String
  member : String
  deriving DecidableEq, Repr

/-- The address of a file: the path it is known by, and how it is fetched. -/
structure Resolved where
  canonicalPath : String
  kind : Addressing
  member : Option MemberAddress := none
  deriving DecidableEq, Repr

def Resolved.storageGroup (resolved : Resolved) : Option String := resolved.member.bind (·.group)

inductive Unresolvable where
  | emptyTarget
  | emptyStreamTarget
  | incompleteMember (target path : String)
  | unsupportedScheme (scheme : String)
  | missingMember (path : String)
  deriving DecidableEq, Repr

def Unresolvable.message : Unresolvable → String
  | .emptyTarget => "Empty include target"
  | .emptyStreamTarget => "Empty stream file include target"
  | .incompleteMember target path =>
      "Cannot resolve member include '" ++ target ++ "' from '" ++ path ++ "'"
  | .unsupportedScheme scheme => "Unsupported addressing scheme '" ++ scheme ++ "'"
  | .missingMember path => "Member address missing for " ++ path

/-- Removes one quote from each end that has one. -/
def unquoteChars (chars : List Char) : List Char :=
  let opened := if chars.head? == some '\'' then chars.drop 1 else chars
  if opened.getLast? == some '\'' then opened.dropLast else opened

def unquote (target : String) : String := String.ofList (unquoteChars target.toList)

/-- The address of a stream file. An absolute target is taken as it is written. -/
def resolveStream (home target : String) : Except Unresolvable Resolved :=
  let path := unquote target
  if path.isEmpty then .error .emptyStreamTarget
  else
    let finished :=
      if startsWith path "/" then path
      else normalize (joinTexts (if home.isEmpty then "/" else home) path)
    .ok ⟨upper finished, .streamFile, none⟩

/-- The source file of a member when neither target nor document names one. -/
def defaultSourceFile : String := "QRPGLEREF"

/-- What a document's own path lends to the members it includes: storage group, library and source
file. The path begins with a slash, so its first part is empty. -/
def inherited (path : String) : Option String × Option String × String :=
  match split '/' path with
  | [_, library, file, _] => (none, some library, file)
  | [_, group, library, file, _] => (some group, some library, file)
  | _ => (none, none, defaultSourceFile)

def lastOrEmpty (parts : List String) : String := parts.getLast?.getD ""

def memberPath (group : Option String) (library file member : String) : String :=
  "/" ++ join "/" (group.toList ++ [library, file, member])

/-- The address of a member: `[LIBRARY/][FILE,]MEMBER[.EXTENSION]`. -/
def resolveMember (path target : String) : Except Unresolvable Resolved :=
  let libraryParts := split '/' target
  let memberParts := split ',' (lastOrEmpty libraryParts)
  let (group, ownLibrary, ownFile) := inherited path
  let library :=
    match libraryParts with
    | [written, _] => some written
    | _ => ownLibrary
  let (file, written) :=
    match memberParts with
    | [file, member] => (file, member)
    | parts => (ownFile, lastOrEmpty parts)
  let member := withoutExtension written
  let library := library.getD ""
  if library.isEmpty || file.isEmpty || member.isEmpty then
    .error (.incompleteMember target path)
  else
    let group := group.filter fun name => !name.isEmpty
    .ok ⟨upper (memberPath group library file member), .member,
      some ⟨group.map upper, upper library, upper file, upper member⟩⟩

def resolve (home : String) (document : Document) (target : String) :
    Except Unresolvable Resolved :=
  let target := trim target
  if target.isEmpty then .error .emptyTarget
  else
    match Addressing.ofName? document.scheme with
    | some .streamFile => resolveStream home target
    | some .member => resolveMember document.path target
    | none => .error (.unsupportedScheme document.scheme)

/-- The path a document is known by when other documents include it. -/
def canonicalPath (home : String) (document : Document) : Except Unresolvable String :=
  if document.scheme = Addressing.member.name then
    (resolve home document (lastPart document.path)).map Resolved.canonicalPath
  else .ok (upper document.path)

end RpgSymbols
