import VaultAccess.Decode.Record
import VaultAccess.Json.Value

/-!
# Backends

The auth methods and secrets engines that the connector relies on, and where they are mounted.
-/
namespace VaultAccess

open Decode

/-- What a backend is for. -/
inductive BackendKind where
  | auth
  | secrets
  deriving DecidableEq, Repr, Inhabited

namespace BackendKind

def name : BackendKind → String
  | auth => "auth"
  | secrets => "secrets"

def all : List BackendKind := [auth, secrets]

def ofName? (s : String) : Option BackendKind := all.find? fun k => k.name == s

end BackendKind

/-- A backend to mount at a path. Options ascend by key. -/
structure Backend where
  path : String
  kind : BackendKind
  /-- The backend's type as the vault names it. -/
  engine : String
  description : Option String
  options : List (String × String)
  deriving DecidableEq, Repr

namespace Backend

/-- The backends that are mounted unless others are configured. -/
def defaults : List Backend :=
  [⟨"approle", .auth, "approle", none, []⟩,
    ⟨"userpass", .auth, "userpass", none, []⟩,
    ⟨"secret", .secrets, "kv", none, [("version", "2")]⟩]

/-- A backend as JSON: description and options only if there are any. -/
def toJson (b : Backend) : Json :=
  .obj ([("path", .str b.path), ("kind", .str b.kind.name), ("type", .str b.engine)] ++
    (match b.description with
      | some text => [("description", Json.str text)]
      | none => []) ++
    (if b.options = [] then [] else [("options", Json.ofTexts b.options)]))

variable {V E : Type}

/-- A backend kind by its name. -/
def readKind (d : Dialect V E) : V → Except E BackendKind :=
  d.oneOf (BackendKind.all.map BackendKind.name) BackendKind.ofName?

/-- A backend. -/
def read (d : Dialect V E) : V → Except E Backend :=
  d.ofRecord "struct BackendMount" <|
    Record.start Backend.mk
      |>.field (required "path" d.text)
      |>.field (required "kind" (readKind d))
      |>.field (required "type" d.text)
      |>.field (withDefault "description" none (d.optional d.text))
      |>.field (withDefault "options" [] fun v => (d.tableOf d.text v).map Json.sortMembers)

end Backend

end VaultAccess
