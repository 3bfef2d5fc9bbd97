import RpgSymbols.Json.Parser
import RpgSymbols.Number.Word
import RpgSymbols.Symbol.Encode
import RpgSymbols.Table

/-!
Rows of the symbol artifact. A row is a declaration as seen from one document, flat, so that each
line of the artifact can be read by itself.
-/

namespace RpgSymbols

open Text Json

structure ParameterRecord where
  name : String
  keywords : List String
  description : String
  deriving DecidableEq, Repr

def artifactVersion : Int := 1

/-- A row of the artifact. Tags of one name are gathered in the order they were written. -/
structure SymbolRecord where
  schemaVersion : Int := artifactVersion
  document : String
  path : String
  line : Int
  kind : Kind
  name : String
  keywords : List String
  title : Option String
  description : String
  tags : Table (List String)
  parameters : List ParameterRecord
  deriving DecidableEq, Repr

namespace SymbolRecord

def groupTags (tags : List Tag) : Table (List String) :=
  tags.foldl (fun table tag =>
    Table.set tag.tag ((Table.get? tag.tag table).getD [] ++ [tag.content]) table) []

def ofDeclaration (document : String) (declaration : Declaration) : SymbolRecord where
  document := document
  path := declaration.position.elim document Position.path
  line := declaration.position.elim 0 Position.line
  kind := declaration.kind
  name := declaration.name
  keywords := declaration.displayKeywords
  title := declaration.title
  description := declaration.description
  tags := groupTags declaration.tags
  parameters := declaration.subItems.map fun item =>
    ⟨item.name, item.displayKeywords, item.description⟩

def parameterToJson (parameter : ParameterRecord) : Json :=
  .obj [
    ("description", .str parameter.description),
    ("keywords", strings parameter.keywords),
    ("name", .str parameter.name)]

def sortedTags (tags : Table (List String)) : Table (List String) :=
  tags.mergeSort fun one other => one.1 ≤ other.1

def toJson (record : SymbolRecord) : Json :=
  .obj [
    ("description", .str record.description),
    ("document", .str record.document),
    ("keywords", strings record.keywords),
    ("kind", .str record.kind.name),
    ("line", .int record.line),
    ("name", .str record.name),
    ("parameters", .arr (record.parameters.map parameterToJson)),
    ("path", .str record.path),
    ("schema_version", .int record.schemaVersion),
    ("tags", .obj ((sortedTags record.tags).map fun (name, contents) => (name, strings contents))),
    ("title", optional record.title)]

def precedes (one other : SymbolRecord) : Bool :=
  if one.document ≠ other.document then one.document < other.document
  else if one.path ≠ other.path then one.path < other.path
  else if one.line ≠ other.line then one.line < other.line
  else if one.kind ≠ other.kind then one.kind.name < other.kind.name
  else one.name ≤ other.name

def sort (records : List SymbolRecord) : List SymbolRecord := records.mergeSort precedes

/-- The bytes of an artifact: a compact JSON object and a line feed for each row. -/
def encode (records : List SymbolRecord) : List UInt8 :=
  records.flatMap fun record => encodeUtf8 (record.toJson.compact ++ "\n")

def fits (record : SymbolRecord) : Bool :=
  Number.fitsWord record.line && Number.fitsWord record.schemaVersion

/-- The bytes of an artifact whose numbers all have a place in 64 bits; others cannot be written. The
lines of a source always have. -/
def encode? (records : List SymbolRecord) : Option (List UInt8) :=
  if records.all fits then some (encode records) else none

end SymbolRecord

/-- The non-empty lines of bytes. A line ends at a line feed or a carriage return, so the pair of
both ends one line and leaves an empty piece that is dropped. -/
def byteLines : List UInt8 → List (List UInt8)
  | [] => []
  | byte :: rest =>
      if byte = 10 || byte = 13 then [] :: byteLines rest
      else
        match byteLines rest with
        | [] => [[byte]]
        | line :: more => (byte :: line) :: more

/-- The rows of an artifact: the objects among the JSON values of its lines. Fails when a line is no
JSON. -/
def decodeRows? (bytes : List UInt8) : Option (List Json) :=
  let lines := (byteLines bytes).filter fun line => !line.isEmpty
  (lines.mapM parseBytes?).map fun values => values.filter fun
    | .obj _ => true
    | _ => false

end RpgSymbols
