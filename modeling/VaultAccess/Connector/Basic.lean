import VaultAccess.Connector.Membership
import VaultAccess.Connector.Session
import VaultAccess.Graph.Projection

/-!
# The connector

For each kind: its listing, the entitlements and grants of a resource, and changes of who holds
what. Every call mounts the backends first.
-/
namespace VaultAccess

open Vault Paging

/-- A connector's settings: the backends it mounts and how many users a page holds. -/
structure Connector where
  backends : List Backend
  pageSize : Nat
  deriving DecidableEq, Repr

namespace Connector

/-- What the connector is, and the kinds it covers. -/
def metadata : Json :=
  .obj [("displayName", .str "HashiCorp Vault"),
    ("description", .str
      "Connector syncing users, roles, policies and secrets from HashiCorp Vault."),
    ("resourceTypes", .arr (Kind.all.map fun k =>
      .obj [("id", .str k.name), ("displayName", .str k.title)]))]

/-- The records of the named users, in order. -/
def getUsers : List String → Action (List UserRecord)
  | [] => return []
  | name :: rest => do
    let user ← getUser name
    let users ← getUsers rest
    return user :: users

/-- A listing that comes in one piece. -/
def wholeListing {ρ : Type} (kind : Kind) (records : Action (List ρ))
    (project : ρ → Option ResourceId → Resource) (parent : Option ResourceId) (cursor : String) :
    Action (Page Resource) :=
  Membership.loggedPage cursor kind (fun _ => return .whole (← records)) (project · parent)

/-- One page of users, read one by one from a window of the name listing. -/
def listUserPage (pageSize : Nat) (parent : Option ResourceId) (cursor : String) :
    Action (Page Resource) :=
  Membership.loggedPage cursor .user
    (fun marker => do
      let names ← listUsers
      let window ← Action.ofExcept (Paging.window names marker pageSize)
      let users ← getUsers window.records
      return ⟨users, window.next⟩)
    (Projection.ofUser · parent)

/-- The phase of the role listing that a marker names, and the marker after it. -/
def rolePhase (marker : Option String) : Except Fault (RoleSource × Option String) :=
  match phaseIndex marker RoleSource.all.length with
  | .error e => .error e
  | .ok i =>
    let source := if i = 0 then RoleSource.approle else RoleSource.token
    .ok (source, nextPhase i RoleSource.all.length)

/-- One page of roles: one source per page. -/
def listRolePage (parent : Option ResourceId) (cursor : String) : Action (Page Resource) :=
  Membership.loggedPage cursor .role
    (fun marker => do
      let (source, next) ← Action.ofExcept (rolePhase marker)
      let roles ← listRoles source
      return ⟨roles, next⟩)
    (Projection.ofRole · parent)

/-- One page of the resources of a kind. -/
def listKind (c : Connector) (kind : Kind) (parent : Option ResourceId) (cursor : String) :
    Action (Page Resource) :=
  match kind with
  | .user => listUserPage c.pageSize parent cursor
  | .role => listRolePage parent cursor
  | .policy => wholeListing .policy listPolicies Projection.ofPolicy parent cursor
  | .secret => wholeListing .secret listSecretMounts Projection.ofSecret parent cursor
  | .authMethod => wholeListing .authMethod listAuthMethods Projection.ofAuthMethod parent cursor
  | .group => wholeListing .group listGroups Projection.ofGroup parent cursor
  | .entity => wholeListing .entity listEntities Projection.ofEntity parent cursor

/-- What a resource offers: policies and roles can be assigned. -/
def entitlementsOf (kind : Kind) (r : Resource) : Page Entitlement :=
  match kind with
  | .policy | .role => .single [.ofResource r]
  | _ => .empty

/-- Who holds what a resource offers: only the holders of policies are known. -/
def grantsOf (c : Connector) (kind : Kind) (r : Resource) (cursor : String) :
    Action (Page Grant) :=
  match kind with
  | .policy => Membership.grants c.pageSize r cursor
  | _ => return .empty

/-- Let a principal hold an entitlement. -/
def grantOn (kind : Kind) (principal : ResourceId) (e : Entitlement) : Action Unit :=
  match kind with
  | .policy => Membership.grant principal e
  | _ => throw (.unsupported kind .grant)

/-- Take a grant away. -/
def revokeOn (kind : Kind) (g : Grant) : Action Unit :=
  match kind with
  | .policy => Membership.revoke g
  | _ => throw (.unsupported kind .revoke)

/-- Run a task once the backends are mounted. -/
def mounted {α : Type} (c : Connector) (t : Action α) : Session α := do
  let _ ← Session.bootstrap c.backends
  Session.ofTask t

/-- Mount the backends. -/
def bootstrap (c : Connector) : Session (List Backend.Outcome) := Session.bootstrap c.backends

/-- Whether the vault accepts the token. -/
def validate : Action Unit := do
  let accepted ← ExceptT.lift lookupSelf.run
  match accepted with
  | .ok _ => Action.note .info "Vault token is valid"
  | .error e =>
    Action.note .warn ("Vault token validation failed: " ++ e.message)
    throw e

def list (c : Connector) (kind : Kind) (parent : Option ResourceId) (cursor : String) :
    Session (Page Resource) :=
  c.mounted (c.listKind kind parent cursor)

def entitlements (c : Connector) (kind : Kind) (r : Resource) : Session (Page Entitlement) :=
  c.mounted (return entitlementsOf kind r)

def grants (c : Connector) (kind : Kind) (r : Resource) (cursor : String) :
    Session (Page Grant) :=
  c.mounted (c.grantsOf kind r cursor)

/-- Let a principal hold an entitlement, through a kind of the caller's choice. -/
def grantVia (c : Connector) (kind : Kind) (principal : ResourceId) (e : Entitlement) :
    Session Unit :=
  c.mounted (grantOn kind principal e)

/-- Take a grant away, through a kind of the caller's choice. -/
def revokeVia (c : Connector) (kind : Kind) (g : Grant) : Session Unit :=
  c.mounted (revokeOn kind g)

/-- Let a principal hold an entitlement. -/
def grant (c : Connector) (principal : ResourceId) (e : Entitlement) : Session Unit :=
  c.grantVia e.resource.kind principal e

/-- Take a grant away. -/
def revoke (c : Connector) (g : Grant) : Session Unit := c.revokeVia g.entitlement.kind g

end Connector

end VaultAccess
