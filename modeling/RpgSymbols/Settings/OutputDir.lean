import RpgSymbols.Files.Resolve

/-!
Output directories. A configured one is a relative path that stays within the root once links are
followed.
-/

namespace RpgSymbols

open Text

inductive OutputDirError where
  | empty
  | notRelative
  | escapes (path : String)
  deriving DecidableEq, Repr

def OutputDirError.message : OutputDirError → String
  | .empty => "output_dir must be a non-empty relative path"
  | .notRelative => "output_dir must be a relative path within the project root"
  | .escapes path => "output_dir '" ++ path ++ "' escapes the project root"

/-- The place of a configured output directory: refused, not resolved, or found. -/
def resolveOutputDir (tree : FileTree) (root : List String) (path : String) :
    Except ResolveError (Except OutputDirError Place) := do
  if path.isEmpty then return .error .empty
  else if startsWith path "~" || startsWith path "/" then return .error .notRelative
  else
    let top ← tree.resolve root
    let place ← tree.resolve (top ++ pathNames path)
    if top.isPrefixOf place then return .ok place else return .error (.escapes path)

/-- The relative path of an output directory, empty when it is the root itself, lies outside of
it, or is no path at all. -/
def relativeOutputDir (tree : FileTree) (output root : List String) :
    Except ResolveError String :=
  let relative : Except ResolveError String := do
    let place ← tree.resolve output
    let top ← tree.resolve root
    if top.isPrefixOf place then return join "/" (place.drop top.length) else return ""
  match relative with
  | .error .embeddedNull => .ok ""
  | result => result

end RpgSymbols
