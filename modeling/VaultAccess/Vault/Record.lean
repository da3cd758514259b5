/-!
# Records of the vault

What the vault tells about its users, roles, policies, mounts, groups and entities, with the
absent parts already filled in.
-/
namespace VaultAccess.Vault

/-- A user who logs in with a password. -/
structure UserRecord where
  name : String
  mountType : Option String
  policies : List String
  boundCidrs : List String
  tokenTtl : UInt64
  deriving DecidableEq, Repr

/-- Where a role is defined. -/
inductive RoleSource where
  | approle
  | token
  deriving DecidableEq, Repr, Inhabited

namespace RoleSource

def name : RoleSource → String
  | approle => "approle"
  | token => "token"

/-- Both sources, in the order in which roles are listed. -/
def all : List RoleSource := [approle, token]

def ofName? (s : String) : Option RoleSource := all.find? fun r => r.name == s

end RoleSource

structure RoleRecord where
  name : String
  source : RoleSource
  mountType : Option String
  deriving DecidableEq, Repr

structure PolicyRecord where
  name : String
  mountType : Option String
  deriving DecidableEq, Repr

/-- An entry of a mount table: a secrets engine or an auth method. Options ascend by key. -/
structure MountRecord where
  path : String
  mountType : Option String
  description : Option String
  accessor : Option String
  options : List (String × String)
  deriving DecidableEq, Repr

/-- An identity group or entity. Metadata ascend by key. -/
structure IdentityRecord where
  id : String
  name : Option String
  groupType : Option String
  policies : List String
  disabled : Bool
  metadata : List (String × String)
  deriving DecidableEq, Repr

end VaultAccess.Vault
