import RpgSymbols.Files.SlashPath
import RpgSymbols.Text.Quoted

/-!
File trees. A tree maps places, which are the names from the root down, to files, directories and
symbolic links. Places never lead through a link: what lies behind one is found by walking.
-/

namespace RpgSymbols

open Text

inductive Entry where
  | file (bytes : List UInt8)
  | directory
  | link (target : String)
  deriving DecidableEq, Repr

/-- The names from the root down to an entry. -/
abbrev Place := List String

def Place.text (place : Place) : String := "/" ++ join "/" place

/-- The names of a path: empty ones and `.` are dropped, `..` is kept. -/
def pathNames (path : String) : List String :=
  (split '/' path).filter fun name => name != "" && name != "."

/-- The names of `path` below `base`; an absolute path starts from the root again. -/
def joinNames (base : List String) (path : String) : List String :=
  if startsWith path "/" then pathNames path else base ++ pathNames path

/-- Whether some name has a null character, which no entry has. -/
def hasNull (names : List String) : Bool :=
  names.any fun name => name.toList.contains (Char.ofNat 0)

def beforeNull (names : List String) : List String := names.takeWhile fun name => !hasNull [name]

/-- A file tree. The root is a directory that is always there. -/
structure FileTree where
  entries : List (Place × Entry) := []
  deriving Repr

inductive FileError where
  | missing
  | exists
  | notDirectory
  | isDirectory
  | tooManyLinks
  deriving DecidableEq, Repr

def FileError.number : FileError → String
  | .missing => "2"
  | .exists => "17"
  | .notDirectory => "20"
  | .isDirectory => "21"
  | .tooManyLinks => "40"

def FileError.reason : FileError → String
  | .missing => "No such file or directory"
  | .exists => "File exists"
  | .notDirectory => "Not a directory"
  | .isDirectory => "Is a directory"
  | .tooManyLinks => "Too many levels of symbolic links"

def FileError.message (error : FileError) (path : String) : String :=
  "[Errno " ++ error.number ++ "] " ++ error.reason ++ ": " ++ quoted path

namespace FileTree

def entry? (tree : FileTree) (place : Place) : Option Entry :=
  if place.isEmpty then some .directory
  else (tree.entries.find? fun entry => entry.1 == place).map Prod.snd

def isDirectoryAt (tree : FileTree) (place : Place) : Bool := tree.entry? place == some .directory

/-- Where a walk ends: at an entry, or at a free place in a directory. -/
inductive Landing where
  | present (place : Place)
  | vacant (place : Place)
  deriving DecidableEq, Repr

/-- Where a walk stops: it ends, it fails, or it comes to a link with names still to walk. -/
inductive Halt where
  | landed (landing : Landing)
  | failed (error : FileError)
  | atLink (directory : Place) (name target : String) (rest : List String)

def advance (tree : FileTree) (here : Place) : List String → Halt
  | [] => .landed (.present here)
  | name :: rest =>
      if !tree.isDirectoryAt here then .failed .notDirectory
      else if name = "" || name = "." then tree.advance here rest
      else if name = ".." then tree.advance here.dropLast rest
      else
        let next := here ++ [name]
        match tree.entry? next with
        | none => if rest.isEmpty then .landed (.vacant next) else .failed .missing
        | some (.link target) => .atLink here name target rest
        | some _ => tree.advance next rest

def linkStart (directory : Place) (target : String) : Place :=
  if startsWith target "/" then [] else directory

/-- Walks names from a place, through at most `budget` links. A link at the very end is entered
only if `follow` holds. -/
def walk (tree : FileTree) (follow : Bool) (budget : Nat) (here : Place) (names : List String) :
    Except FileError Landing :=
  match tree.advance here names with
  | .landed landing => .ok landing
  | .failed error => .error error
  | .atLink directory name target rest =>
      if rest.isEmpty && !follow then .ok (.present (directory ++ [name]))
      else
        match budget with
        | 0 => .error .tooManyLinks
        | budget + 1 =>
            tree.walk follow budget (linkStart directory target) (split '/' target ++ rest)

/-- The number of links one walk may enter. -/
def linkLimit : Nat := 40

def locate (tree : FileTree) (names : List String) : Except FileError Place :=
  match tree.walk true linkLimit [] names with
  | .ok (.present place) => .ok place
  | .ok (.vacant _) => .error .missing
  | .error error => .error error

def find? (tree : FileTree) (names : List String) : Option Entry :=
  if hasNull names then none
  else (tree.locate names).toOption.bind tree.entry?

def leadsSomewhere (tree : FileTree) (names : List String) : Bool := (tree.find? names).isSome

def isFile (tree : FileTree) (names : List String) : Bool :=
  match tree.find? names with
  | some (.file _) => true
  | _ => false

def isDirectory (tree : FileTree) (names : List String) : Bool :=
  tree.find? names == some .directory

def read (tree : FileTree) (names : List String) : Except FileError (List UInt8) :=
  match tree.locate names with
  | .error error => .error error
  | .ok place =>
      match tree.entry? place with
      | some (.file bytes) => .ok bytes
      | some .directory => .error .isDirectory
      | _ => .error .missing

def namesIn (tree : FileTree) (place : Place) : List String :=
  (tree.entries.filterMap fun entry =>
    if entry.1.dropLast == place then entry.1.getLast? else none).mergeSort fun one other =>
      one ≤ other

/-- Everything below a place, by the names that lead there from it. Links are listed and not
entered. -/
def below (tree : FileTree) (place : Place) : List (List String × Entry) :=
  tree.entries.filterMap fun entry =>
    let relative := entry.1.drop place.length
    if place.isPrefixOf entry.1 && !relative.isEmpty then some (relative, entry.2) else none

def put (tree : FileTree) (place : Place) (entry : Entry) : FileTree :=
  if (tree.entries.any fun old => old.1 == place) then
    ⟨tree.entries.map fun old => if old.1 == place then (place, entry) else old⟩
  else ⟨tree.entries ++ [(place, entry)]⟩

def makeDirectory (tree : FileTree) (names : List String) : Except FileError FileTree :=
  match tree.walk false linkLimit [] names with
  | .ok (.vacant place) => .ok (tree.put place .directory)
  | .ok (.present _) => .error .exists
  | .error error => .error error

/-- Writes a file. A link at the end of the path is followed, and a file that it leads to is
replaced. -/
def write (tree : FileTree) (names : List String) (bytes : List UInt8) :
    Except FileError FileTree :=
  match tree.walk true linkLimit [] names with
  | .ok (.vacant place) => .ok (tree.put place (.file bytes))
  | .ok (.present place) =>
      if tree.isDirectoryAt place then .error .isDirectory
      else .ok (tree.put place (.file bytes))
  | .error error => .error error

/-- Makes a directory and the ones above it, last name first. A directory that is already there is
no failure. The failure names the path it arose at. -/
def makeDirectories (tree : FileTree) : List String → Except (FileError × List String) FileTree
  | [] => .ok tree
  | name :: above =>
      let names := (name :: above).reverse
      let tolerant (error : FileError) (tree : FileTree) :
          Except (FileError × List String) FileTree :=
        if tree.isDirectory names then .ok tree else .error (error, names)
      match tree.makeDirectory names with
      | .ok made => .ok made
      | .error .missing =>
          match tree.makeDirectories above with
          | .error failure => .error failure
          | .ok prepared =>
              match prepared.makeDirectory names with
              | .ok made => .ok made
              | .error .missing => .error (.missing, names)
              | .error error => tolerant error prepared
      | .error error => tolerant error tree

end FileTree

end RpgSymbols
