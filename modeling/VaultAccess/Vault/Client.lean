import VaultAccess.Backend.Basic
import VaultAccess.Vault.Payload
import VaultAccess.Vault.Program

/-!
# Asking the vault

One operation per thing the vault can tell or do, each with its endpoint.
-/
namespace VaultAccess.Vault

namespace Endpoint

def users : String := "v1/auth/userpass/users"

def approleRoles : String := "v1/auth/approle/role"

def tokenRoles : String := "v1/auth/token/roles"

def policies : String := "v1/sys/policy"

def mounts : String := "v1/sys/mounts"

def authMethods : String := "v1/sys/auth"

def groups : String := "v1/identity/group/id"

def entities : String := "v1/identity/entity/id"

def lookupSelf : String := "v1/auth/token/lookup-self"

/-- The path of one user. Encoded, the name stays a single segment; names that would still not be
one are refused. -/
def user (name suffix : String) : Except Fault String :=
  if name = "" ∨ name = "." ∨ name = ".." then .error (.invalidName name)
  else .ok (users ++ "/" ++ Text.Percent.encode name ++ suffix)

/-- The path at which a backend is enabled. -/
def backend (b : Backend) : String :=
  (match b.kind with
    | .auth => authMethods
    | .secrets => mounts) ++ "/" ++ Text.trimSlashes b.path

end Endpoint

/-- List the keys under a path. Where there is nothing to list the vault answers 404. -/
def listKeys (path : String) : Action Listing := do
  let response ← Action.request (.list path)
  if response.status = 404 then
    Action.note .debug ("LIST " ++ path ++ " returned no keys")
    return Listing.empty
  Action.ofExcept (response.read Listing.ofJson)

/-- Get the value at a path. -/
def getValue {α : Type} (decode : Json → Except Mismatch α) (path : String) : Action α := do
  let response ← Action.request (.get path)
  Action.ofExcept (response.read decode)

/-- The names of all users, in the order of the server. -/
def listUsers : Action (List String) := do
  return (← listKeys Endpoint.users).data.keys

def getUser (name : String) : Action UserRecord := do
  let path ← Action.ofExcept (Endpoint.user name "")
  let answer ← getValue UserAnswer.ofJson path
  return answer.record name

/-- The policies of a user, as the server has them now. -/
def userPolicies (name : String) : Action (List String) := do
  return (← getUser name).policies

/-- The body that replaces a user's policies. -/
def policiesBody (policies : List String) : Json :=
  .obj [("token_policies", Json.ofStrings policies)]

/-- Replace all policies of a user. -/
def updateUserPolicies (name : String) (policies : List String) : Action Unit := do
  let path ← Action.ofExcept (Endpoint.user name "/policies")
  let response ← Action.request (.post path (policiesBody policies))
  let _ ← Action.ofExcept response.requireSuccess
  return ()

def listRoles (source : RoleSource) : Action (List RoleRecord) := do
  let path := match source with
    | .approle => Endpoint.approleRoles
    | .token => Endpoint.tokenRoles
  let listing ← listKeys path
  return listing.data.keys.map fun name => ⟨name, source, listing.mountType⟩

def listPolicies : Action (List PolicyRecord) := do
  let listing ← getValue PolicyListing.ofJson Endpoint.policies
  return listing.names.map fun name => ⟨name, listing.mountType⟩

def listSecretMounts : Action (List MountRecord) := do
  return (← getValue MountTable.ofJson Endpoint.mounts).records

def listAuthMethods : Action (List MountRecord) := do
  return (← getValue MountTable.ofJson Endpoint.authMethods).records

def listGroups : Action (List IdentityRecord) := do
  return (← listKeys Endpoint.groups).data.records

def listEntities : Action (List IdentityRecord) := do
  return (← listKeys Endpoint.entities).data.records

/-- What the vault says about the token in use. -/
def lookupSelf : Action Json := getValue Json.readAny Endpoint.lookupSelf

/-- The body that enables a backend. -/
def enableBody (b : Backend) : Json :=
  .obj ((match b.description with
      | some text => [("description", Json.str text)]
      | none => []) ++
    (if b.options = [] then [] else [("options", Json.ofTexts b.options)]) ++
    [("type", .str b.engine)])

/-- Ask to enable a backend; any status is an answer. -/
def enableBackend (b : Backend) : Action Response :=
  Action.request (.post (Endpoint.backend b) (enableBody b))

end VaultAccess.Vault
