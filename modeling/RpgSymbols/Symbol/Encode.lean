import RpgSymbols.Json.Printer
import RpgSymbols.Symbol.Model

/-!
Declarations and models as JSON. The fields of every object are in increasing order of their
names, and all of them are always there.
-/

namespace RpgSymbols

open Json

def Position.toJson (position : Position) : Json :=
  .obj [("line", .int position.line), ("path", .str position.path)]

def Tag.toJson (tag : Tag) : Json :=
  .obj [("content", .str tag.content), ("tag", .str tag.tag)]

mutual
def Declaration.toJson : Declaration → Json
  | ⟨kind, name, keywords, displayKeywords, title, description, tags, position, subItems⟩ =>
      .obj [
        ("description", .str description),
        ("display_keywords", strings displayKeywords),
        ("keywords", strings keywords),
        ("kind", .str kind.name),
        ("name", .str name),
        ("position", position.elim .null Position.toJson),
        ("sub_items", .arr (Declaration.listToJson subItems)),
        ("tags", .arr (tags.map Tag.toJson)),
        ("title", optional title)]

def Declaration.listToJson : List Declaration → List Json
  | [] => []
  | declaration :: rest => declaration.toJson :: Declaration.listToJson rest
end

def Model.toJson (model : Model) : Json :=
  .obj [
    ("constants", .arr (Declaration.listToJson model.constants)),
    ("procedures", .arr (Declaration.listToJson model.procedures)),
    ("structures", .arr (Declaration.listToJson model.structures)),
    ("subroutines", .arr (Declaration.listToJson model.subroutines)),
    ("variables", .arr (Declaration.listToJson model.standalones))]

def Model.printed (model : Model) : String := model.toJson.indented

end RpgSymbols
