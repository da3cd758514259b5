import VaultAccess.Graph.Resource
import VaultAccess.Text.Fields
import VaultAccess.Text.Percent

/-!
# Entitlements and grants

An entitlement is something a resource offers; a grant says that a principal holds one. Both have
ids: colon-separated fields with the names percent-encoded, so a colon in a name is no separator.
-/
namespace VaultAccess

/-- The slug of the entitlement that policies and roles offer. -/
def assigned : String := "assigned"

/-- Something a resource offers to principals of some kinds. -/
structure Entitlement where
  resource : ResourceId
  slug : String
  displayName : String
  description : String
  grantableTo : List Kind
  deriving DecidableEq, Repr

/-- That a principal holds an entitlement. -/
structure Grant where
  entitlement : ResourceId
  slug : String
  principal : ResourceId
  deriving DecidableEq, Repr

/-- Why a text is no id. -/
inductive IdFault where
  /-- The wrong number of fields, or an empty one. -/
  | form (what expected text : String)
  | kind (text : String)
  /-- An escaped name whose bytes are not UTF-8. -/
  | name (text : String) (fault : Text.Utf8.Fault)
  deriving DecidableEq, Repr

/-- The wording of a fault in an id. -/
def IdFault.message : IdFault → String
  | form what expected text =>
    "invalid " ++ what ++ " id '" ++ text ++ "', expected " ++ expected
  | kind text => "unknown resource kind '" ++ text ++ "'"
  | name text fault => "invalid escaped name '" ++ text ++ "': " ++ fault.message

/-- The kind that a text names. -/
def Kind.parse (text : String) : Except IdFault Kind :=
  match Kind.ofName? text with
  | some k => .ok k
  | none => .error (.kind text)

namespace ResourceId

/-- The two fields of an id that name a resource. -/
def segment (id : ResourceId) : String := id.kind.name ++ ":" ++ Text.Percent.encode id.name

/-- The resource that a kind field and a name field name. -/
def ofFields (kind name : List Char) : Except IdFault ResourceId :=
  match Kind.parse (String.ofList kind) with
  | .error e => .error e
  | .ok k =>
    match Text.Percent.decode (String.ofList name) with
    | .ok n => .ok ⟨k, n⟩
    | .error f => .error (.name (String.ofList name) f)

end ResourceId

namespace Entitlement

/-- The entitlement with a slug of a resource that is shown under a name. -/
def describe (resource : ResourceId) (shown slug : String) : Entitlement where
  resource := resource
  slug := slug
  displayName := shown ++ " " ++ resource.kind.name ++ " " ++ slug
  description := "Assigned to " ++ shown ++ " " ++ resource.kind.name
  grantableTo := [.user]

/-- The one entitlement of a policy or role, grantable to users. -/
def ofResource (r : Resource) : Entitlement := describe r.id r.displayName assigned

/-- Kind, name and slug. -/
def id (e : Entitlement) : String := e.resource.segment ++ ":" ++ e.slug

/-- The resource and slug that an id names. -/
def parseId (text : String) : Except IdFault (ResourceId × String) :=
  match Text.fields ':' text.toList with
  | [kind, name, slug] =>
    if kind = [] ∨ name = [] ∨ slug = [] then
      .error (.form "entitlement" "<kind>:<resource>:<slug>" text)
    else (ResourceId.ofFields kind name).map fun r => (r, String.ofList slug)
  | _ => .error (.form "entitlement" "<kind>:<resource>:<slug>" text)

/-- The entitlement that an id names, shown under the name of its resource. -/
def ofId (text : String) : Except IdFault Entitlement :=
  (parseId text).map fun (resource, slug) => describe resource resource.name slug

end Entitlement

namespace Grant

/-- The id of the entitlement followed by kind and name of the principal. -/
def id (g : Grant) : String :=
  g.entitlement.segment ++ ":" ++ g.slug ++ ":" ++ g.principal.segment

/-- The form of a grant's id. -/
def idForm : String := "<kind>:<resource>:<slug>:<principal kind>:<principal>"

/-- The grant that an id names. -/
def parseId (text : String) : Except IdFault Grant :=
  match Text.fields ':' text.toList with
  | [kind, name, slug, holderKind, holder] =>
    if kind = [] ∨ name = [] ∨ slug = [] ∨ holderKind = [] ∨ holder = [] then
      .error (.form "grant" idForm text)
    else
      match ResourceId.ofFields kind name with
      | .error e => .error e
      | .ok entitlement =>
        (ResourceId.ofFields holderKind holder).map fun principal =>
          ⟨entitlement, String.ofList slug, principal⟩
  | _ => .error (.form "grant" idForm text)

end Grant

end VaultAccess
