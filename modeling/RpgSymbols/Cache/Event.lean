import RpgSymbols.Cache.Source
import RpgSymbols.Number.Digits
import RpgSymbols.Text.Quoted

/-!
Events: what an operation does besides its result. Requests to the content source and notices to
the reader of the log are kept in the order they happen.
-/

namespace RpgSymbols

open Text Number

def SourceError.message : SourceError → String
  | .unavailable message => message
  | .interrupted message => message
  | .linkLoop path => "Symlink loop from " ++ quoted path

inductive Level where
  | debug
  | warning
  deriving DecidableEq, Repr

def Level.name : Level → String
  | .debug => "DEBUG"
  | .warning => "WARNING"

inductive Notice where
  | skippedInclude (target : String) (reason : Unresolvable)
  | failedFetch (kind : Addressing) (path reason : String)
  | refreshed (path : String)
  | built (identity : String) (files declarations : Nat)
  | invalidated (identity : String)
  | includeSaved (identity : String)
  | invalidLinterOptions (path : String)
  deriving DecidableEq, Repr

namespace Notice

/-- Failures to include a file and faulty linter options are warnings. -/
def level : Notice → Level
  | .skippedInclude .. | .failedFetch .. | .invalidLinterOptions .. => .warning
  | _ => .debug

def topic : Notice → String
  | .skippedInclude .. | .failedFetch .. | .refreshed .. => "cache.content"
  | .built .. => "parse.builder"
  | .invalidated .. => "cache.symbols"
  | .includeSaved .. | .invalidLinterOptions .. => "workspace.session"

def message : Notice → String
  | .skippedInclude target reason => "Skipping include " ++ quoted target ++ ": " ++ reason.message
  | .failedFetch kind path reason =>
      "Failed to fetch " ++ kind.name ++ " " ++ path ++ ": " ++ reason
  | .refreshed path => "Refreshing cached lines for " ++ path
  | .built identity files declarations =>
      "Built symbol model for " ++ identity ++ " from " ++ natText files ++ " file(s): " ++
        natText declarations ++ " declaration(s)"
  | .invalidated identity => "Invalidated symbol model for " ++ identity
  | .includeSaved identity => "Include " ++ identity ++ " saved; dropping all models"
  | .invalidLinterOptions path => "Invalid linter configuration " ++ path ++ ": not valid JSON"

end Notice

/-- Something an operation does besides its result. -/
inductive Event where
  | requested (request : Request)
  | noticed (notice : Notice)
  deriving DecidableEq, Repr

def Event.requests (events : List Event) : List Request :=
  events.filterMap fun
    | .requested request => some request
    | .noticed _ => none

def Event.notices (events : List Event) : List Notice :=
  events.filterMap fun
    | .requested _ => none
    | .noticed notice => some notice

end RpgSymbols
