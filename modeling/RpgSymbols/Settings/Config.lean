import RpgSymbols.Json.Printer
import RpgSymbols.Schema.Scalar
import RpgSymbols.Text.Case.Lower

/-!
Settings of a source tree: where relative includes start, where artifacts go, and which files are
sources. A setting that is not known is refused.
-/

namespace RpgSymbols

open Text Schema

structure Config where
  homeDirectory : String := "/"
  outputDir : String := ".rpglemap"
  includePatterns : List String := []
  excludePatterns : List String := []
  extensions : List String := [".rpgle", ".sqlrpgle", ".rpgleinc"]
  nestedIgnoreFiles : Bool := false
  deriving DecidableEq, Repr

namespace Config

def names : List String :=
  ["home_directory", "output_dir", "include", "exclude", "extensions", "nested_gitignore"]

def checkHome (location : List Step) (value : Json) : Checked String :=
  (checkText location value).andThen fun path =>
    if startsWith path "/" then .valid path
    else .fault location
      (.refused ("home_directory must be an absolute path, got '" ++ path ++ "'"))

/-- An extension in lower case with its dot, if there is anything to it. -/
def normalExtension? (text : String) : Option String :=
  let name := lower (trim text)
  if name.isEmpty then none else if startsWith name "." then some name else some ("." ++ name)

def checkExtensions (location : List Step) (value : Json) : Checked (List String) :=
  (checkTexts .notList location value).map fun texts => texts.filterMap normalExtension?

def checkNames : Table Json → Checked Unit
  | [] => .valid ()
  | (key, _) :: rest =>
      let others := checkNames rest
      if names.contains key then others
      else ((Checked.fault [.key key] .unexpectedKey : Checked Unit).and others).map fun _ => ()

def ofJson : Json → Checked Config
  | .obj fields =>
      ((checkDefaulted checkHome [] "home_directory" "/" fields).and <|
        (checkDefaulted checkText [] "output_dir" ".rpglemap" fields).and <|
        (checkDefaulted (checkTexts .notList) [] "include" [] fields).and <|
        (checkDefaulted (checkTexts .notList) [] "exclude" [] fields).and <|
        (checkDefaulted checkExtensions [] "extensions" [".rpgle", ".sqlrpgle", ".rpgleinc"]
          fields).and <|
        (checkDefaulted checkBoolean [] "nested_gitignore" false fields).and
          (checkNames fields)).map
        fun (home, output, includes, excludes, extensions, nested, _) =>
          ⟨home, output, includes, excludes, extensions, nested⟩
  | _ => .fault [] (.notRecord "RpgleMapConfig")

def toJson (config : Config) : Json :=
  .obj [
    ("exclude", Json.strings config.excludePatterns),
    ("extensions", Json.strings config.extensions),
    ("home_directory", .str config.homeDirectory),
    ("include", Json.strings config.includePatterns),
    ("nested_gitignore", .bool config.nestedIgnoreFiles),
    ("output_dir", .str config.outputDir)]

end Config

end RpgSymbols
