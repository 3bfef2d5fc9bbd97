import RpgSymbols.Files.Tree
import RpgSymbols.Settings.Config
import RpgSymbols.Text.Utf8
import RpgSymbols.Toml.Parser

/-!
Settings as a source tree has them: in a TOML file in its root, or the defaults where there is no
such file.
-/

namespace RpgSymbols

open Text

def configFileName : String := "rpglemap.toml"

inductive ConfigError where
  | invalidToml (path : String)
  | invalidSettings (path : String) (faults : List Schema.Fault)
  deriving DecidableEq, Repr

def ConfigError.message : ConfigError → String
  | .invalidToml path => "Invalid TOML in " ++ path ++ ": not a TOML document"
  | .invalidSettings path faults =>
      "Invalid config in " ++ path ++ ": " ++
        join "; " (faults.map fun fault => fault.kind.message)

/-- Why settings were not even read: the bytes are not UTF-8, a number has too many digits, or values
are nested too deeply. -/
inductive ReadError where
  | undecodable
  | longInteger (digits : Nat)
  | tooDeep
  deriving DecidableEq, Repr

def ReadError.message : ReadError → String
  | .undecodable => "The settings are not UTF-8"
  | .longInteger digits =>
      "A number in the settings has " ++ Number.natText digits ++ " digits; the limit is " ++
        Number.natText Number.digitLimit
  | .tooDeep => "The settings are nested too deeply"

/-- What loading settings gives: a failure to read is apart from settings that are refused. -/
inductive Loaded where
  | config (config : Config)
  | refused (error : ConfigError)
  | unread (error : ReadError)

def configOfBytes (path : String) (bytes : List UInt8) : Loaded :=
  match decodeStrict? bytes with
  | none => .unread .undecodable
  | some chars =>
      match Toml.parseChars chars with
      | .error .malformed => .refused (.invalidToml path)
      | .error (.longInteger digits) => .unread (.longInteger digits)
      | .error .tooDeep => .unread .tooDeep
      | .ok entries =>
          match Config.ofJson (Toml.Value.table entries).toJson with
          | .valid config => .config config
          | .invalid faults => .refused (.invalidSettings path (Schema.sortFaults faults))

def loadConfig (tree : FileTree) (root : List String) : Loaded :=
  let names := root ++ [configFileName]
  match tree.find? names with
  | some (.file bytes) => configOfBytes (Place.text names) bytes
  | _ => .config {}

end RpgSymbols
