import RpgSymbols.Text.Blank

/-!
Paths as texts divided by slashes: joining, normal form and last part.
-/

namespace RpgSymbols.SlashPath

open Text

/-- The path of `relative` below `base`; an absolute path stays as it is. -/
def joinTexts (base relative : String) : String :=
  if startsWith relative "/" then relative
  else if base.isEmpty || endsWith base "/" then base ++ relative
  else base ++ "/" ++ relative

/-- The slashes a normal form begins with: none, one, or exactly two. -/
def leadingSlashes (path : String) : Nat :=
  match path.toList with
  | '/' :: '/' :: '/' :: _ => 1
  | '/' :: '/' :: _ => 2
  | '/' :: _ => 1
  | _ => 0

/-- Takes one more part into a normal form whose parts so far are `done`, last one first. A `..`
removes the part before it; at an absolute root there is none to remove. -/
def pushPart (absolute : Bool) (done : List String) (part : String) : List String :=
  if part = "" || part = "." then done
  else if part = ".." then
    match done with
    | [] => if absolute then [] else [".."]
    | last :: rest => if last = ".." then ".." :: done else rest
  else part :: done

def normalParts (absolute : Bool) (parts : List String) : List String :=
  (parts.foldl (pushPart absolute) []).reverse

/-- The path without empty parts, `.` and removable `..`. -/
def normalize (path : String) : String :=
  let slashes := leadingSlashes path
  let text := String.ofList (List.replicate slashes '/') ++
    join "/" (normalParts (slashes != 0) (split '/' path))
  if text.isEmpty then "." else text

def lastPart (path : String) : String :=
  String.ofList (path.toList.reverse.takeWhile (· != '/')).reverse

end RpgSymbols.SlashPath
