import RpgSymbols.Schema.Scalar

/-!
Declarations read from JSON. Unknown fields are passed over; only procedures may have subitems, and
that is only looked at once every field is in order. Nesting is bounded.
-/

namespace RpgSymbols.Schema

open Text

def checkKind (location : List Step) : Json → Checked Kind
  | .str name =>
      match Kind.ofName? name with
      | some kind => .valid kind
      | none => .fault location .unknownKind
  | _ => .fault location .unknownKind

def checkPosition (location : List Step) : Json → Checked (Option Position)
  | .null => .valid none
  | .obj fields =>
      ((checkRequired checkText location "path" fields).and
        (checkRequired checkInteger location "line" fields)).map
          fun (path, line) => some ⟨path, line⟩
  | _ => .fault location (.notRecord "Position")

def checkTag (location : List Step) : Json → Checked Tag
  | .obj fields =>
      ((checkRequired checkText location "tag" fields).and
        (checkDefaulted checkText location "content" "" fields)).map
          fun (tag, content) => ⟨tag, content⟩
  | _ => .fault location (.notRecord "Tag")

def checkTags (location : List Step) : Json → Checked (List Tag)
  | .arr items => checkItems checkTag location 0 items
  | _ => .fault location .notTuple

def checkOwnFields (location : List Step) (fields : Table Json) : Checked Declaration :=
  let texts := checkTexts .notTuple
  ((checkRequired checkKind location "kind" fields).and <|
    (checkRequired checkText location "name" fields).and <|
    (checkDefaulted texts location "keywords" [] fields).and <|
    (checkDefaulted texts location "display_keywords" [] fields).and <|
    (checkDefaulted checkOptionalText location "title" none fields).and <|
    (checkDefaulted checkText location "description" "" fields).and <|
    (checkDefaulted checkTags location "tags" [] fields).and
      (checkDefaulted checkPosition location "position" none fields)).map
    fun (kind, name, keywords, displayKeywords, title, description, tags, position) =>
      { kind := kind, name := name, keywords := keywords, displayKeywords := displayKeywords,
        title := title, description := description, tags := tags, position := position }

/-- A declaration with the given subitems, which only a procedure may have. -/
def withSubItems (location : List Step) (declaration : Declaration)
    (subItems : List Declaration) : Checked Declaration :=
  if subItems.isEmpty || declaration.kind = .procedure then
    .valid { declaration with subItems := subItems }
  else .fault location (.refused
    (declaration.kind.name ++ " '" ++ declaration.name ++ "' cannot have sub items"))

/-- How many declarations may enclose another. -/
def deepestNesting : Nat := 254

mutual
/-- A declaration inside `depth` others. One that is enclosed by too many is not looked at. -/
def checkDeclaration (depth : Nat) (location : List Step) : Json → Checked Declaration
  | .obj fields =>
      if deepestNesting < depth then .fault location .tooDeep
      else ((checkOwnFields location fields).and (checkSubItems depth location fields)).andThen
        fun (declaration, subItems) => withSubItems location declaration subItems
  | _ =>
      .fault location (if deepestNesting < depth then .tooDeep else .notRecord "Declaration")

def checkSubItems (depth : Nat) (location : List Step) :
    List (String × Json) → Checked (List Declaration)
  | [] => .valid []
  | (key, value) :: rest =>
      if key = "sub_items" then checkSubItemList depth (location ++ [.key key]) value
      else checkSubItems depth location rest

def checkSubItemList (depth : Nat) (location : List Step) : Json → Checked (List Declaration)
  | .arr items => checkDeclarations (depth + 1) location 0 items
  | _ => .fault location .notTuple

/-- Declarations in order, each checked at its own place. -/
def checkDeclarations (depth : Nat) (location : List Step) :
    Nat → List Json → Checked (List Declaration)
  | _, [] => .valid []
  | place, item :: rest =>
      ((checkDeclaration depth (location ++ [.index place]) item).and
        (checkDeclarations depth location (place + 1) rest)).map
          fun (first, others) => first :: others
end

def declarationOfJson (value : Json) : Checked Declaration := checkDeclaration 0 [] value

end RpgSymbols.Schema
