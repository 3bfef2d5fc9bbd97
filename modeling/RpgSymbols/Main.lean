import RpgSymbols.Command.Run

/-!
The program. A snapshot is taken of the files that a command line names, the command runs on the
snapshot, and the directories and files that it added are written back.
-/

namespace RpgSymbols.Command

def Action.paths : Action → List String
  | .generate root output => root :: (output.bind Given.text?).toList
  | .symbols file root .. => root.text?.toList ++ [file]
  | .resolve .. => [configFileName]

def withDirectories (tree : FileTree) (place : Place) : FileTree :=
  (List.range place.length).foldl
    (fun tree depth => tree.put (place.take (depth + 1)) .directory) tree

/-- The place that a real path leads to, if it leads to one. -/
def realPlace? (place : Place) : IO (Option Place) := do
  match ← (IO.FS.realPath (Place.text place)).toBaseIO with
  | .ok path => return some (pathNames path.toString)
  | .error _ => return none

/-- Adds the links and directories that real names lead through from a place, and answers where
they lead. -/
def follow (tree : FileTree) (here : Place) : List String → IO (FileTree × Option Place)
  | [] => return (tree, some here)
  | name :: rest =>
      if name = ".." then follow tree here.dropLast rest
      else do
        let next := here ++ [name]
        match ← realPlace? next with
        | none => return (tree, none)
        | some place =>
            let linked := if place = next then tree else tree.put next (.link (Place.text place))
            follow (withDirectories linked place) place rest

/-- Adds what stands at a real place and everything below it. -/
partial def load (tree : FileTree) (place : Place) : IO FileTree := do
  let path ← IO.FS.realPath (Place.text place)
  if ← path.isDir then
    (← path.readDir).foldlM (fun tree child => do
      let next := place ++ [child.fileName]
      match ← realPlace? next with
      | none => return tree
      | some target =>
          if target = next then load tree next
          else return tree.put next (.link (Place.text target))) (tree.put place .directory)
  else return tree.put place (.file (← IO.FS.readBinFile path).toList)

/-- The snapshot for a command that runs in a directory. -/
def snapshot (environment : Environment) (action : Action) : IO FileTree :=
  action.paths.foldlM (fun tree path => do
    match environment.trail path with
    | .error _ => return tree
    | .ok trail =>
        let start := if trail.absolute then [] else environment.current
        let (tree, place) ← follow tree start trail.names
        match place with
        | none => return tree
        | some place => load tree place) environment.tree

/-- Writes back what a command added to the snapshot or changed in it. -/
def writeBack (old new : FileTree) : IO Unit :=
  new.entries.forM fun (place, entry) => do
    if old.entry? place = some entry then return
    match entry with
    | .directory => IO.FS.createDir (Place.text place)
    | .file bytes => IO.FS.writeBinFile (Place.text place) ⟨bytes.toArray⟩
    | .link _ => return

def perform (verbose : Bool) (action : Action) : IO UInt32 := do
  let current := pathNames (← IO.FS.realPath (← IO.currentDir)).toString
  let home ← IO.getEnv "HOME"
  let bare : Environment := {
    tree := withDirectories {} current
    current := current
    homeOf := fun user => if user.isEmpty then home.map pathNames else none }
  let environment := { bare with tree := ← snapshot bare action }
  match run environment verbose action with
  | .error failure =>
      IO.eprintln ("error: " ++ failure.message)
      return 1
  | .ok finished =>
      writeBack environment.tree finished.tree
      IO.eprint finished.messages
      IO.print finished.output
      return UInt32.ofNat finished.exit

def usageText : String :=
  "usage: rpgsymbols [-h] [--verbose] generate [--out-dir DIR] [ROOT]\n" ++
  "       rpgsymbols [-h] [--verbose] symbols [--root DIR] [--path PATH] [--scheme SCHEME] " ++
  "[--home-dir DIR] FILE\n" ++
  "       rpgsymbols [-h] [--verbose] resolve [--scheme SCHEME] [--home-dir DIR] DOCUMENT TARGET\n"

end RpgSymbols.Command

def main (arguments : List String) : IO UInt32 := do
  match RpgSymbols.Command.readCommandLine arguments with
  | .ok (verbose, action) => RpgSymbols.Command.perform verbose action
  | .error .help =>
      IO.print RpgSymbols.Command.usageText
      return 0
  | .error usage =>
      IO.eprint RpgSymbols.Command.usageText
      return UInt32.ofNat usage.code
