import RpgSymbols.Files.Tree

/-!
Full resolution of paths. Links are followed wherever they stand, `..` is applied to where the
links lead, and names that lead nowhere are kept. Links that lead into themselves are an error.
-/

namespace RpgSymbols

open Text SlashPath

inductive ResolveError where
  | linkLoop (path : String)
  | embeddedNull
  deriving DecidableEq, Repr

def ResolveError.message : ResolveError → String
  | .linkLoop path => "Symlink loop from " ++ quoted path
  | .embeddedNull => "embedded null byte"

/-- A path from the root or from the current directory. While it is resolved, steps up stand only
at the start of one from the current directory. -/
structure Trail where
  absolute : Bool
  names : List String
  deriving DecidableEq, Repr

namespace Trail

def down (trail : Trail) (name : String) : Trail := { trail with names := trail.names ++ [name] }

def up (trail : Trail) : Trail :=
  if trail.absolute || trail.names.getLast?.any (· != "..") then
    { trail with names := trail.names.dropLast }
  else trail.down ".."

/-- Where the target of a link in the directory of a trail is resolved from. -/
def targetStart (trail : Trail) (target : String) : Trail :=
  if startsWith target "/" then ⟨true, []⟩ else trail

/-- The trail with further names behind it. Names that begin with an empty one are those of an
absolute path and stand for themselves. -/
def rejoin (trail : Trail) (rest : List String) : Trail :=
  match rest with
  | "" :: _ :: _ => ⟨true, rest⟩
  | _ => { trail with names := trail.names ++ rest }

/-- The place a trail leads to when no link is followed. -/
def place (current : Place) (trail : Trail) : Place :=
  normalParts true (if trail.absolute then trail.names else current ++ trail.names)

end Trail

namespace FileTree

/-- A path resolved as far as it goes: completely, or up to a link that leads into itself, with the
names left unresolved. -/
inductive Unrolled where
  | complete (trail : Trail)
  | looping (trail : Trail)
  deriving DecidableEq, Repr

def Unrolled.trail : Unrolled → Trail
  | .complete trail => trail
  | .looping trail => trail

/-- The links that were resolved completely, with where they lead. -/
abbrev KnownLinks := List (Trail × Trail)

/-- Resolves names behind a trail; `enter` resolves a link that is not known, given its trail, the
trail of its directory and its target. The links known afterwards are answered too, so that no link
is resolved twice. -/
def unrollWith (tree : FileTree) (current : Place)
    (enter : KnownLinks → Trail → Trail → String → KnownLinks × Unrolled)
    (known : KnownLinks) (here : Trail) : List String → KnownLinks × Unrolled
  | [] => (known, .complete here)
  | name :: rest =>
      if name = "" || name = "." then tree.unrollWith current enter known here rest
      else if name = ".." then tree.unrollWith current enter known here.up rest
      else
        let next := here.down name
        match tree.entry? (next.place current) with
        | some (.link target) =>
            match known.find? fun link => link.1 == next with
            | some (_, trail) => tree.unrollWith current enter known trail rest
            | none =>
                match enter known next here target with
                | (known, .complete trail) =>
                    tree.unrollWith current enter ((next, trail) :: known) trail rest
                | (known, .looping trail) => (known, .looping (trail.rejoin rest))
        | _ => tree.unrollWith current enter known next rest

/-- Resolves names behind a trail, with `entered` the links being resolved. A link is known by its
trail, so the same one may be entered from the root and from the current directory. -/
def unroll (tree : FileTree) (current : Place) (entered : List Trail) (depth : Nat)
    (known : KnownLinks) (here : Trail) (names : List String) : KnownLinks × Unrolled :=
  match depth with
  | 0 => tree.unrollWith current (fun known link _ _ => (known, .looping link)) known here names
  | depth + 1 =>
      tree.unrollWith current (fun known link directory target =>
        if entered.contains link then (known, .looping link)
        else tree.unroll current (link :: entered) depth known (directory.targetStart target)
          (split '/' target)) known here names

def linkCount (tree : FileTree) : Nat :=
  (tree.entries.filter fun entry =>
    match entry.2 with
    | .link _ => true
    | _ => false).length

/-- How far a path is resolved. No trail is entered twice at once, and a link has one trail from the
root and one for each number of steps up from the current directory, which bounds the depth. -/
def unrolled (tree : FileTree) (current : Place) (path : Trail) : Unrolled :=
  let depth := (tree.linkCount + 1) * (current.length + 2)
  (tree.unroll current [] depth [] ⟨path.absolute, []⟩ path.names).2

/-- The resolved form of a path. The names that follow a link that leads into itself are only put
in normal form. -/
def unrolledPlace (tree : FileTree) (current : Place) (path : Trail) : Place :=
  (tree.unrolled current path).trail.place current

/-- Whether the host comes upon a null character in a path: in a name that it looks up, or in the
resolved form, which it looks at in the end. Names behind a link that leads into itself are not looked
up, and a step up may take them away before the end. -/
def meetsNull (tree : FileTree) (current : Place) (path : Trail) : Bool :=
  hasNull path.names &&
    match tree.unrolled current { path with names := beforeNull path.names } with
    | .complete _ => true
    | .looping _ => hasNull (tree.unrolledPlace current path)

def resolveFrom (tree : FileTree) (current : Place) (path : Trail) : Except ResolveError Place :=
  if tree.meetsNull current path then .error .embeddedNull
  else
    let place := tree.unrolledPlace current path
    match tree.locate place with
    | .error .tooManyLinks => .error (.linkLoop (Place.text place))
    | _ => .ok place

def resolve (tree : FileTree) (names : List String) : Except ResolveError Place :=
  tree.resolveFrom [] ⟨true, names⟩

def isWithin (tree : FileTree) (root names : List String) : Except ResolveError Bool := do
  let place ← tree.resolve names
  let top ← tree.resolve root
  return top.isPrefixOf place

end FileTree

end RpgSymbols
