import RpgSymbols.Files.Tree
import RpgSymbols.Pattern.Glob
import RpgSymbols.Pattern.Ignore
import RpgSymbols.Settings.Config
import RpgSymbols.Text.Case.Fold
import RpgSymbols.Text.Order
import RpgSymbols.Text.Utf8

/-!
Discovery of sources. A source is a file below the root whose name ends with one of the configured
extensions, in any case, which is outside the output directory, is not ignored, and survives the
configured patterns. Links are neither sources nor entered.
-/

namespace RpgSymbols

open Text Pattern

inductive SourcesError where
  | undecodableIgnoreFile
  | ignorePattern (error : IgnoreError)
  deriving DecidableEq, Repr

def SourcesError.message : SourcesError → String
  | .undecodableIgnoreFile => "An ignore file is not UTF-8"
  | .ignorePattern error => error.message

def ignoreFileName : String := ".gitignore"

/-- The ignore files that apply below a place, by the names of their directories: the one of the
place itself, or all of them in increasing order. Links are passed over. -/
def ignoreFilesBelow (tree : FileTree) (root : Place) (nested : Bool) :
    List (List String × List UInt8) :=
  let found := (tree.below root).filterMap fun (names, entry) =>
    match entry with
    | .file bytes =>
        if names.getLast? == some ignoreFileName && (nested || names.length == 1) then
          some (names.dropLast, bytes)
        else none
    | _ => none
  found.mergeSort fun one other =>
    textsInOrder (one.1 ++ [ignoreFileName]) (other.1 ++ [ignoreFileName])

def ignoreBlockSize : Nat := 8192

/-- The lines that were read of an ignore file before its bytes turned out not to be UTF-8. A
carriage return ends its line only once it is known what follows. -/
def linesBeforeFault (bytes : List UInt8) : List Char :=
  let chars := charsBeforeFault ignoreBlockSize bytes
  let settled := if chars.getLast? == some '\r' then chars.dropLast else chars
  ((unifyNewlines settled).reverse.dropWhile (· != '\n')).reverse

/-- Reads the rules of ignore files. The rules of lines that were read before a fault of the bytes
come first. -/
def readIgnoreFiles : List (List String × List UInt8) → Except SourcesError (List IgnoreFile)
  | [] => .ok []
  | (directory, bytes) :: rest => do
      match decodeStrict? bytes with
      | none =>
          match rulesOfText (linesBeforeFault bytes) with
          | .error error => .error (.ignorePattern error)
          | .ok _ => .error .undecodableIgnoreFile
      | some chars =>
          match rulesOfText (unifyNewlines chars) with
          | .error error => .error (.ignorePattern error)
          | .ok rules => return ⟨directory, rules⟩ :: (← readIgnoreFiles rest)

/-- Whether a file with the given names is ignored. Whoever decides may find the rules faulty only
then. -/
abbrev IgnoreMatcher := List String → Except IgnoreError Bool

/-- What makes a matcher from ignore files, given by the names of their directories and their
bytes. -/
abbrev IgnoreReader := List (List String × List UInt8) → Except SourcesError IgnoreMatcher

def readIgnoreRules : IgnoreReader := fun files => do
  let rules ← readIgnoreFiles files
  return fun names => ignoredBySome names rules

structure SourceSelector where
  extensions : List String
  skipped : List String
  includePatterns : List String
  excludePatterns : List String
  ignored : IgnoreMatcher

namespace SourceSelector

def hasExtension (selector : SourceSelector) (names : List String) : Bool :=
  let name := caseFold (names.getLast?.getD "")
  selector.extensions.any (endsWith name)

def isSkipped (selector : SourceSelector) (names : List String) : Bool :=
  !selector.skipped.isEmpty && selector.skipped.isPrefixOf names

def survives (selector : SourceSelector) (names : List String) : Bool :=
  let path := join "/" names
  (selector.includePatterns.isEmpty ||
    selector.includePatterns.any fun pattern => matchesGlob pattern path) &&
    !selector.excludePatterns.any fun pattern => matchesGlob pattern path

def accepts (selector : SourceSelector) (names : List String) (entry : Entry) :
    Except IgnoreError Bool :=
  match entry with
  | .file _ =>
      if !selector.hasExtension names || selector.isSkipped names then .ok false
      else do
        if ← selector.ignored names then return false
        else return selector.survives names
  | _ => .ok false

end SourceSelector

/-- The names of a directory to skip, with an absolute one beginning with a slash. -/
def skippedNames (path : String) : List String :=
  if startsWith path "/" then "/" :: pathNames path else pathNames path

def selectSources (selector : SourceSelector) :
    List (List String × Entry) → Except IgnoreError (List (List String × List UInt8))
  | [] => .ok []
  | (names, entry) :: rest => do
      let accepted ← selector.accepts names entry
      let others ← selectSources selector rest
      match accepted, entry with
      | true, .file bytes => return (names, bytes) :: others
      | _, _ => return others

/-- The sources below a root, with their bytes, in increasing order of their relative paths. The
directory `skipped` is left out; without it, the configured output directory is. -/
def findSourcesWith (reader : IgnoreReader) (tree : FileTree) (root : List String) (config : Config)
    (skipped : Option String) : Except SourcesError (List (List String × List UInt8)) :=
  match tree.locate root with
  | .error _ => .ok []
  | .ok place =>
      if !tree.isDirectoryAt place then .ok []
      else do
        let ignored ← reader (ignoreFilesBelow tree place config.nestedIgnoreFiles)
        let selector : SourceSelector := {
          extensions := config.extensions.map caseFold
          skipped := skippedNames (skipped.getD config.outputDir)
          includePatterns := config.includePatterns
          excludePatterns := config.excludePatterns
          ignored := ignored }
        match selectSources selector (tree.below place) with
        | .error error => .error (.ignorePattern error)
        | .ok sources =>
            return sources.mergeSort fun one other => join "/" one.1 ≤ join "/" other.1

/-- The sources below a root, with ignore files read as `Pattern.Ignore` reads them. -/
def findSources (tree : FileTree) (root : List String) (config : Config) (skipped : Option String) :
    Except SourcesError (List (List String × List UInt8)) :=
  findSourcesWith readIgnoreRules tree root config skipped

end RpgSymbols
