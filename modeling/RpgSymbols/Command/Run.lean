import RpgSymbols.Artifact.Generate
import RpgSymbols.Command.Arguments
import RpgSymbols.Symbol.Encode
import RpgSymbols.Workspace.Session

/-!
The commands: `generate` writes the artifact of a source tree, `symbols` prints the model of one
document, `resolve` prints the address of an include target.
-/

namespace RpgSymbols.Command

open Text

def documentFlags : List Flag :=
  [⟨"--scheme", true, [Addressing.streamFile.name, Addressing.member.name]⟩,
    ⟨"--home-dir", true, []⟩]

inductive Action where
  | generate (root : String) (output : Option Given)
  | symbols (file : String) (root : Given) (path : Option String) (scheme : String)
    (home : Option String)
  | resolve (document : String) (target : Option String) (scheme : String) (home : Option String)
  deriving DecidableEq, Repr

/-- The addressing scheme among the values of options. One that was lost is no scheme. -/
def schemeOf (parsed : Parsed) : String :=
  match Table.get? "--scheme" parsed.values with
  | none => Addressing.streamFile.name
  | some given => given.text?.getD "[]"

/-- The value of an option that may be left empty, as one that was lost is. -/
def Parsed.text? (parsed : Parsed) (name : String) : Option String :=
  (Table.get? name parsed.values).map fun given => given.text?.getD ""

def readCommand (name : String) (arguments : List String) : Except Usage (Action × Parsed) := do
  if name = "generate" then
    let parsed ← Signature.read ⟨[⟨"--out-dir", true, []⟩], [.optional "."]⟩ arguments
    return (.generate ((parsed.operand? 0).getD "") (Table.get? "--out-dir" parsed.values), parsed)
  else if name = "symbols" then
    let flags : List Flag := ⟨"--root", true, []⟩ :: ⟨"--path", true, []⟩ :: documentFlags
    let parsed ← Signature.read ⟨flags, [.required]⟩ arguments
    return (.symbols ((parsed.operand? 0).getD "")
      ((Table.get? "--root" parsed.values).getD (.text ".")) (parsed.text? "--path")
      (schemeOf parsed) (parsed.text? "--home-dir"), parsed)
  else if name = "resolve" then
    let parsed ← Signature.read ⟨documentFlags, [.required, .required]⟩ arguments
    return (.resolve ((parsed.operand? 0).getD "") (parsed.operand? 1)
      (schemeOf parsed) (parsed.text? "--home-dir"), parsed)
  else .error .misuse

def verboseFlag : Flag := ⟨"--verbose", false, []⟩

/-- Reads the arguments up to the name of the command, and leaves the others to the command. The
texts and what they are stand side by side. -/
def readProgram (verbose leftOver : Bool) :
    List Argument → List String → Except Usage (Bool × Action)
  | .word name :: _, _ :: rest => do
      let (action, parsed) ← readCommand name rest
      if leftOver || parsed.leftOver then .error .misuse else return (verbose, action)
  | .flag flag none :: arguments, _ :: rest =>
      if flag = helpFlag then .error .help else readProgram true leftOver arguments rest
  | .unknown :: arguments, _ :: rest => readProgram verbose true arguments rest
  | _, _ => .error .misuse

def readCommandLine (arguments : List String) : Except Usage (Bool × Action) := do
  let classified ← classifyAll [verboseFlag] arguments
  readProgram false false classified arguments

/-- Where a command runs: the files, the current directory, and the home directories of users, the
current one under the empty name. -/
structure Environment where
  tree : FileTree
  current : List String
  homeOf : String → Option (List String)

inductive Failure where
  | resolution (error : ResolveError)
  | unknownHome
  | lostTarget
  | lostPath
  | unread (error : ReadError)
  | file (error : FileError) (path : List String)
  | sources (error : SourcesError)
  deriving DecidableEq, Repr

def Failure.message : Failure → String
  | .resolution error => error.message
  | .unknownHome => "Could not determine home directory."
  | .lostTarget => "The include target is missing"
  | .lostPath => "A path is missing"
  | .unread error => error.message
  | .file error path => error.message (Place.text path)
  | .sources error => error.message

/-- What a command leaves behind: the exit code, what it printed, its messages, and the files. -/
structure Finished where
  exit : Nat
  output : String := ""
  messages : String := ""
  tree : FileTree

def Environment.trail (environment : Environment) (path : String) : Except Failure Trail :=
  if startsWith path "/" then .ok ⟨true, pathNames path⟩
  else
    match pathNames path with
    | [] => .ok ⟨false, []⟩
    | first :: rest =>
        match first.toList with
        | '~' :: user =>
            match environment.homeOf (String.ofList user) with
            | some home => .ok ⟨true, home ++ rest⟩
            | none => .error .unknownHome
        | _ => .ok ⟨false, first :: rest⟩

def Environment.place (environment : Environment) (path : String) : Except Failure Place := do
  match environment.tree.resolveFrom environment.current (← environment.trail path) with
  | .ok place => return place
  | .error error => .error (.resolution error)

def Environment.givenPlace (environment : Environment) : Given → Except Failure Place
  | .text path => environment.place path
  | .lost => .error .lostPath

/-- The lines of notices: warnings alone, or all with their level and topic. -/
def noticeText (verbose : Bool) (events : List Event) : String :=
  let shown := (Event.notices events).filter fun notice => verbose || notice.level = .warning
  join "" (shown.map fun notice =>
    if verbose then
      notice.level.name ++ ":" ++ notice.topic ++ ":" ++ notice.message ++ "\n"
    else notice.message ++ "\n")

def refuse (environment : Environment) (exit : Nat) (reason : String) : Finished :=
  { exit := exit, messages := "error: " ++ reason ++ "\n", tree := environment.tree }

def runGenerate (environment : Environment) (verbose : Bool) (root : String)
    (output : Option Given) : Except Failure Finished := do
  let root ← environment.place root
  let output ← match output with
    | none => .ok none
    | some given => (environment.givenPlace given).map some
  match RpgSymbols.generate environment.tree root output none with
  | .ok generated =>
      return { exit := 0, messages := noticeText verbose generated.events, tree := generated.tree }
  | .error (.config error) => return refuse environment 2 error.message
  | .error (.outputDir error) => return refuse environment 2 error.message
  | .error (.unreadConfig error) => .error (.unread error)
  | .error (.resolution error) => .error (.resolution error)
  | .error (.file error path) => .error (.file error path)
  | .error (.sources error) => .error (.sources error)

/-- The path a document is known by: the one given, or the one relative to the root, or the absolute
one of a file outside of it. -/
def documentPath (file root : Place) (given : Option String) : String :=
  match given.filter fun path => !path.isEmpty with
  | some path => path
  | none =>
      if root.isPrefixOf file then
        let relative := file.drop root.length
        "/" ++ (if relative.isEmpty then "." else join "/" relative)
      else Place.text file

def runSymbols (environment : Environment) (verbose : Bool) (file : String) (root : Given)
    (path : Option String) (scheme : String) (home : Option String) :
    Except Failure Finished := do
  let root ← environment.givenPlace root
  let file ← environment.place file
  match loadConfig environment.tree root with
  | .unread error => .error (.unread error)
  | .refused error => return refuse environment 2 error.message
  | .config config =>
      match environment.tree.read file with
      | .error error => return refuse environment 2 (error.message (Place.text file))
      | .ok bytes =>
          let home := (home.filter fun path => !path.isEmpty).getD config.homeDirectory
          let source := (LocalSource.mk environment.tree root).toContentSource
          let document : Document := ⟨scheme, documentPath file root path⟩
          let workspace : Workspace := { content := { home := home } }
          let reply := workspace.getModel source document (some (readTextReplacing bytes))
          return {
            exit := 0
            output := (reply.value.getD {}).printed ++ "\n"
            messages := noticeText verbose reply.events
            tree := environment.tree }

def runResolve (environment : Environment) (document : String) (target : Option String)
    (scheme : String) (home : Option String) : Except Failure Finished := do
  let finish (home : String) : Except Failure Finished :=
    match target with
    | none => .error .lostTarget
    | some target =>
        match RpgSymbols.resolve home ⟨scheme, document⟩ target with
        | .error error => .ok (refuse environment 1 error.message)
        | .ok resolved =>
            .ok {
              exit := 0
              output := resolved.canonicalPath ++ " (" ++ resolved.kind.name ++ ")\n"
              tree := environment.tree }
  match home with
  | some home => finish home
  | none =>
      match loadConfig environment.tree environment.current with
      | .unread error => .error (.unread error)
      | .refused error => return refuse environment 2 error.message
      | .config config => finish config.homeDirectory

def run (environment : Environment) (verbose : Bool) : Action → Except Failure Finished
  | .generate root output => runGenerate environment verbose root output
  | .symbols file root path scheme home =>
      runSymbols environment verbose file root path scheme home
  | .resolve document target scheme home => runResolve environment document target scheme home

end RpgSymbols.Command
