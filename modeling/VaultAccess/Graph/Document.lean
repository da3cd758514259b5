import VaultAccess.Graph.Entitlement
import VaultAccess.Json.Decode
import VaultAccess.Paging.Codec
import VaultAccess.Paging.Step

/-!
# The resource graph as JSON

Traits are told apart by the member `trait`; all other records are plain.
-/
namespace VaultAccess

open Decode Json

def ResourceId.toJson (id : ResourceId) : Json :=
  .obj [("kind", .str id.kind.name), ("resource", .str id.name)]

/-- A resource id. -/
def ResourceId.read {V E : Type} (d : Dialect V E) : V → Except E ResourceId :=
  d.ofRecord "struct ResourceId" <|
    Record.start ResourceId.mk
      |>.field (required "kind" (Paging.readKind d))
      |>.field (required "resource" d.text)

namespace Traits

def toJson : Traits → Json
  | user status profile =>
    .obj [("trait", .str "user"), ("status", .str status.name), ("profile", .obj profile)]
  | role profile => .obj [("trait", .str "role"), ("profile", .obj profile)]
  | app profile => .obj [("trait", .str "app"), ("profile", .obj profile)]
  | group profile => .obj [("trait", .str "group"), ("profile", .obj profile)]

/-- The names of the variants. -/
def names : List String := ["user", "role", "app", "group"]

/-- How the contents of a variant are read: a name may stand beside null or an empty object, and
a list form must have exactly the fields of the variant. -/
def contents (items : Nat) : Dialect Json Mismatch :=
  { Json.dialect with
    choice
      | .obj [(key, v)] =>
        .ok (key, match v with
          | .obj [] => .ok ()
          | v => readUnit v)
      | v => readChoice v
    long := fun n => .error (.invalidLength n
      (toString items ++ (if items = 1 then " element" else " elements") ++ " in sequence")) }

/-- A status by its name. -/
def readStatus (d : Dialect Json Mismatch) : Json → Except Mismatch UserStatus :=
  d.oneOf (UserStatus.all.map UserStatus.name) UserStatus.ofName?

/-- A profile. -/
def readProfile : Json → Except Mismatch Profile
  | .obj members => .ok members
  | v => unexpected v "a map"

/-- The contents of the variant with this name. -/
def readVariant (name : String) (content : Json) : Except Mismatch Traits :=
  let one (title : String) (make : Profile → Traits) : Except Mismatch Traits :=
    (contents 1).ofRecord ("struct variant Traits::" ++ title)
      ((Record.start make).field (required "profile" readProfile)) content
  if name = "user" then
    (contents 2).ofRecord "struct variant Traits::User"
      (Record.start user
        |>.field (required "status" (readStatus (contents 2)))
        |>.field (required "profile" readProfile)) content
  else if name = "role" then one "Role" role
  else if name = "app" then one "App" app
  else one "Group" group

/-- The variant that a tag names. -/
def readTag : Json → Except Mismatch String
  | .str s => if s ∈ names then .ok s else .error (.unknownVariant s names)
  | v => unexpected v "variant identifier"

/-- Traits: an object with the member `trait`, or a list that starts with it. -/
def ofJson : Json → Except Mismatch Traits
  | .obj members =>
    match members.lookup "trait" with
    | none => .error (.missingField "trait")
    | some tag =>
      match readTag tag with
      | .error e => .error e
      | .ok name => readVariant name (.obj (members.filter fun m => m.1 ≠ "trait"))
  | .arr [] => .error (.missingField "trait")
  | .arr (tag :: rest) =>
    match readTag tag with
    | .error e => .error e
    | .ok name => readVariant name (.arr rest)
  | v => unexpected v "internally tagged enum Traits"

end Traits

namespace Resource

def toJson (r : Resource) : Json :=
  .obj ([("id", r.id.toJson), ("displayName", .str r.displayName)] ++
    (match r.parent with
      | some p => [("parentId", p.toJson)]
      | none => []) ++
    [("traits", r.traits.toJson)])

/-- A resource. -/
def ofJson : Json → Except Mismatch Resource :=
  dialect.ofRecord "struct Resource" <|
    Record.start Resource.mk
      |>.field (required "id" (ResourceId.read dialect))
      |>.field (required "displayName" dialect.text)
      |>.field (dialect.optionalField "parentId" (ResourceId.read dialect))
      |>.field (required "traits" Traits.ofJson)

end Resource

namespace Entitlement

def toJson (e : Entitlement) : Json :=
  .obj [("resource", e.resource.toJson), ("slug", .str e.slug),
    ("displayName", .str e.displayName), ("description", .str e.description),
    ("grantableTo", .arr (e.grantableTo.map fun k => .str k.name))]

/-- An entitlement. -/
def ofJson : Json → Except Mismatch Entitlement :=
  dialect.ofRecord "struct Entitlement" <|
    Record.start Entitlement.mk
      |>.field (required "resource" (ResourceId.read dialect))
      |>.field (required "slug" dialect.text)
      |>.field (required "displayName" dialect.text)
      |>.field (required "description" dialect.text)
      |>.field (required "grantableTo" (dialect.listOf (Paging.readKind dialect)))

end Entitlement

namespace Grant

def toJson (g : Grant) : Json :=
  .obj [("entitlement", g.entitlement.toJson), ("entitlementSlug", .str g.slug),
    ("principal", g.principal.toJson)]

/-- A grant. -/
def ofJson : Json → Except Mismatch Grant :=
  dialect.ofRecord "struct Grant" <|
    Record.start Grant.mk
      |>.field (required "entitlement" (ResourceId.read dialect))
      |>.field (required "entitlementSlug" dialect.text)
      |>.field (required "principal" (ResourceId.read dialect))

end Grant

/-- A page with its items written by `item`. -/
def Paging.Page.toJson {α : Type} (item : α → Json) (p : Paging.Page α) : Json :=
  .obj [("items", .arr (p.items.map item)), ("nextCursor", .str p.nextCursor)]

end VaultAccess
