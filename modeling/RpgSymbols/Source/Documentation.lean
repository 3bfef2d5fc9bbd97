import RpgSymbols.Number.Digits
import RpgSymbols.Symbol.Declaration

/-!
Documentation blocks. Between two `///` lines the first comment without a tag is the title and the
others are the description; from the first tag on, a comment without one continues the tag before
it.
-/

namespace RpgSymbols

open Text

structure Documentation where
  title : Option String := none
  description : String := ""
  tags : List Tag := []
  deriving DecidableEq, Repr

namespace Documentation

def parameterTags (docs : Documentation) : List Tag := docs.tags.filter fun tag => tag.tag = "param"

/-- What a parameter tag says: the text after the parameter's name, or the name if nothing
follows it. -/
def parameterText (content : String) : String :=
  let text := trim (after ' ' content)
  if text.isEmpty then before ' ' content else text

/-- The description of a parameter. Tags and parameters are matched by their places alone. -/
def parameterDescription (docs : Documentation) (ordinal : Nat) : String :=
  match docs.parameterTags[ordinal]? with
  | none => ""
  | some tag => parameterText tag.content

/-- The description a parameter tag gives, counted from the first one on by ordinals from zero, and
from the last one back by negative ones. Absent when there are not so many to count back. -/
def parameterDescriptionAt? (docs : Documentation) : Int → Option String
  | .ofNat ordinal => some (docs.parameterDescription ordinal)
  | .negSucc back => (docs.parameterTags.reverse[back]?).map fun tag => parameterText tag.content

end Documentation

/-- The documentation gathered so far, and whether a block is open. -/
structure DocumentationTracker where
  active : Bool := false
  title : Option String := none
  description : List String := []
  tags : List Tag := []
  deriving DecidableEq, Repr

namespace DocumentationTracker

/-- Forgets what was gathered; an open block stays open. -/
def reset (tracker : DocumentationTracker) : DocumentationTracker := { active := tracker.active }

/-- A block marker opens a block, and starts afresh, or closes one. -/
def toggle (tracker : DocumentationTracker) : DocumentationTracker :=
  if tracker.active then { tracker with active := false } else { active := true }

def continueLast (comment : String) : List Tag → List Tag
  | [] => []
  | [tag] => [{ tag with content := trim (tag.content ++ " " ++ comment) }]
  | tag :: rest => tag :: continueLast comment rest

/-- The tag a comment after its `@` stands for. -/
def tagOf (comment : String) : Tag := ⟨before ' ' comment, trim (after ' ' comment)⟩

def feed (tracker : DocumentationTracker) (comment : String) : DocumentationTracker :=
  let content := trim comment
  match content.toList with
  | [] => tracker
  | '@' :: rest => { tracker with tags := tracker.tags ++ [tagOf (String.ofList rest)] }
  | _ =>
      if !tracker.tags.isEmpty then { tracker with tags := continueLast content tracker.tags }
      else if tracker.title.isNone then { tracker with title := some content }
      else { tracker with description := tracker.description ++ [content] }

def snapshot (tracker : DocumentationTracker) : Documentation :=
  ⟨tracker.title, join " " tracker.description, tracker.tags⟩

end DocumentationTracker

end RpgSymbols
