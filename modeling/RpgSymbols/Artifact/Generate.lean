import RpgSymbols.Artifact.Record
import RpgSymbols.Cache.Model
import RpgSymbols.Files.LocalSource
import RpgSymbols.Files.Sources
import RpgSymbols.Settings.Load
import RpgSymbols.Settings.OutputDir

/-!
Generation of the symbol artifact. Every free-format source below the root is a stream file at its
relative path, the root standing for the root of the host when includes are fetched. All documents
share one content cache.
-/

namespace RpgSymbols

open Text

def artifactName : String := "symbols.jsonl"

inductive GenerateError where
  | config (error : ConfigError)
  | unreadConfig (error : ReadError)
  | outputDir (error : OutputDirError)
  | resolution (error : ResolveError)
  | file (error : FileError) (path : List String)
  | sources (error : SourcesError)
  deriving DecidableEq, Repr

/-- What was generated: the tree afterwards, the number of documents, the rows, the path of the
artifact, and what happened. -/
structure Generated where
  tree : FileTree
  documents : Nat
  records : List SymbolRecord
  artifact : List String
  events : List Event

structure Gathered where
  cache : ContentCache
  documents : Nat := 0
  records : List SymbolRecord := []
  events : List Event := []

def Gathered.add (source : ContentSource) (gathered : Gathered) (names : List String)
    (bytes : List UInt8) : Gathered :=
  let text := readTextReplacing bytes
  if isFreeFormat text then
    let path := "/" ++ join "/" names
    let built := buildModel source gathered.cache ⟨Addressing.streamFile.name, path⟩ text
    { cache := built.cache
      documents := gathered.documents + 1
      records := gathered.records ++
        built.model.declarations.map (SymbolRecord.ofDeclaration path)
      events := gathered.events ++ built.events }
  else gathered

def gatherAll (source : ContentSource) (home : String)
    (sources : List (List String × List UInt8)) : Gathered :=
  sources.foldl (fun gathered file => gathered.add source file.1 file.2) { cache := ⟨home, []⟩ }

/-- Generates the artifact of a root in an output directory, which is made and left out. -/
def generateIn (tree : FileTree) (root output : List String) (config : Config) :
    Except GenerateError Generated := do
  if hasNull output then .error (.resolution .embeddedNull)
  let tree ← match tree.makeDirectories output.reverse with
    | .ok tree => .ok tree
    | .error (error, path) => .error (.file error path)
  let skipped ← match relativeOutputDir tree output root with
    | .ok path => .ok path
    | .error error => .error (.resolution error)
  let sources ← match findSources tree root config (some skipped) with
    | .ok sources => .ok sources
    | .error error => .error (.sources error)
  let source := (LocalSource.mk tree root).toContentSource
  let gathered := gatherAll source config.homeDirectory sources
  let records := SymbolRecord.sort gathered.records
  let artifact := output ++ [artifactName]
  match tree.write artifact (SymbolRecord.encode records) with
  | .error error => .error (.file error artifact)
  | .ok tree => return ⟨tree, gathered.documents, records, artifact, gathered.events⟩

/-- Generates the artifact of a root. Settings and output directory are the root's own unless they
are given. -/
def generate (tree : FileTree) (root : List String) (output : Option (List String))
    (config : Option Config) : Except GenerateError Generated := do
  let config ← match config with
    | some config => .ok config
    | none =>
        match loadConfig tree root with
        | .config config => .ok config
        | .refused error => .error (.config error)
        | .unread error => .error (.unreadConfig error)
  let output ← match output with
    | some output => .ok output
    | none =>
        match resolveOutputDir tree root config.outputDir with
        | .ok (.ok place) => .ok place
        | .ok (.error error) => .error (.outputDir error)
        | .error error => .error (.resolution error)
  generateIn tree root output config

end RpgSymbols
