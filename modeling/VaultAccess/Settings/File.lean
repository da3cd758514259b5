import VaultAccess.Disk
import VaultAccess.Json.RawDecode
import VaultAccess.Json.Writer
import VaultAccess.Json5.Decode
import VaultAccess.Settings.Basic
import VaultAccess.Toml.Decode
import VaultAccess.Toml.Writer
import VaultAccess.Yaml.Writer

/-!
# Settings files

Settings are kept in YAML, in TOML, or in JSON with the liberties of JSON5; the name of the file
tells which. A file that is too large is not read.
-/
namespace VaultAccess.Settings

/-- The notation of a settings file. -/
inductive Notation where
  | json
  | yaml
  | toml
  deriving DecidableEq, Repr

/-- The notation that the name of a file asks for. -/
def Notation.ofPath (path : String) : Notation :=
  match Disk.extension? path with
  | some "yaml" => .yaml
  | some "yml" => .yaml
  | some "toml" => .toml
  | _ => .json

/-- The largest size of a file, in bytes. -/
def maxFileSize : Nat := 1024 * 1024

/-- Why a file gives no settings. -/
inductive FileFault where
  | missing (path : String)
  | notFound (path : String)
  | tooLarge (path : String) (size : Nat)
  | unreadable (path : String)
  | invalidJson
  | invalidYaml (path : String)
  | invalidToml (path : String)
  deriving DecidableEq, Repr

/-- The wording of a fault. -/
def FileFault.message : FileFault → String
  | missing path => "Config file '" ++ path ++ "' does not exist"
  | notFound path => "Cannot stat config file '" ++ path ++ "'"
  | tooLarge path size =>
    "Config file '" ++ path ++ "' is " ++ Text.Decimal.write size ++ " bytes, exceeds limit of " ++
      Text.Decimal.write maxFileSize ++ " bytes"
  | unreadable path => "Failed to read config file '" ++ path ++ "'"
  | invalidJson => "invalid JSON5 config"
  | invalidYaml path => "invalid YAML in '" ++ path ++ "'"
  | invalidToml path => "invalid TOML in '" ++ path ++ "'"

/-! ## Reading -/

/-- The value of a result, if it has one. -/
def value? {α : Type} : Except Unit α → Option α
  | .ok a => some a
  | .error _ => none

/-- The settings in a JSON5 text. A text that is not one may still be JSON. -/
def ofJson5? (text : String) : Option Settings :=
  match (Json5.ofText? text).bind fun v => value? (Settings.read Json5.dialect v) with
  | some s => some s
  | none => (Json.Raw.ofText? text).bind fun r => value? (Settings.read Json.Raw.dialect r)

/-- The settings in a YAML text. -/
def ofYaml? (text : String) : Option Settings :=
  (Yaml.Node.ofText? text).bind fun n => value? (Settings.read Yaml.dialect n)

/-- The settings in a TOML text. -/
def ofToml? (text : String) : Option Settings :=
  (Toml.document? text).bind fun es => value? (Settings.read Toml.dialect (.table .header es))

/-- The settings in the text of a file. -/
def ofText (path text : String) : Except FileFault Settings :=
  match Notation.ofPath path with
  | .yaml => (ofYaml? text).elim (.error (.invalidYaml path)) .ok
  | .toml => (ofToml? text).elim (.error (.invalidToml path)) .ok
  | .json => (ofJson5? text).elim (.error .invalidJson) .ok

/-- The settings in a file. -/
def ofFile (d : Disk) (path : String) : Except FileFault Settings :=
  match d.entry? path with
  | none => .error (.notFound path)
  | some .directory => .error (.unreadable path)
  | some (.file content) =>
    if maxFileSize < content.length then .error (.tooLarge path content.length)
    else
      match Text.Utf8.decode content with
      | .error _ => .error (.unreadable path)
      | .ok text => ofText path text

/-! ## Which file -/

/-- The files that are looked for in the working directory, in order. -/
def standardFiles : List String :=
  ["vault-connector.json", "vault-connector.yaml", "vault-connector.yml", "vault-connector.toml"]

/-- The file that is looked for in the home directory. -/
def homeFile (home : String) : String := home ++ "/.vault-connector/config.json"

/-- The file to read: the given one, or else the first standard one that exists. -/
def locate (d : Disk) (home : String) (given : Option String) : Option String :=
  match given with
  | some path => some path
  | none => (standardFiles ++ [homeFile home]).find? fun path => (d.entry? path).isSome

/-- The settings in the file to read; without one they are the default. -/
def load (d : Disk) : Option String → Except FileFault Settings
  | none => .ok .default
  | some path => if (d.entry? path).isSome then ofFile d path else .error (.missing path)

/-! ## Writing -/

/-- Why settings are not written. -/
inductive WriteFault where
  /-- A number is too large for the notation. -/
  | outOfRange
  | unwritable (path : String)
  deriving DecidableEq, Repr

/-- The wording of a fault. -/
def WriteFault.message : WriteFault → String
  | outOfRange => "out-of-range value for u64 type"
  | unwritable path => "Failed to write config file '" ++ path ++ "'"

/-- The text of a settings file. -/
def toText? (s : Settings) : Notation → Option String
  | .json => some s.toJson.toPrettyText
  | .yaml => some (Yaml.write s.members)
  | .toml => Toml.write s.members

/-- Write settings to a file. -/
def save (d : Disk) (path : String) (s : Settings) : Except WriteFault Disk :=
  match s.toText? (Notation.ofPath path) with
  | none => .error .outOfRange
  | some text => (d.write? path (Text.Utf8.encode text)).elim (.error (.unwritable path)) .ok

end VaultAccess.Settings
