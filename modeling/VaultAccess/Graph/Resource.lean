import VaultAccess.Graph.Kind
import VaultAccess.Json.Value

/-!
# Resources

A resource is named by its kind and its name within the kind. Its traits say what the kind of
governed object is and carry a free-form profile.
-/
namespace VaultAccess

/-- What names a resource. -/
structure ResourceId where
  kind : Kind
  name : String
  deriving DecidableEq, Repr, Inhabited

/-- The id for people. -/
def ResourceId.describe (id : ResourceId) : String := id.kind.name ++ ":" ++ id.name

/-- A free-form profile: the members of a JSON object. -/
abbrev Profile := Json.Members

/-- Whether a user may log in. -/
inductive UserStatus where
  | enabled
  | disabled
  deriving DecidableEq, Repr, Inhabited

namespace UserStatus

def name : UserStatus → String
  | enabled => "enabled"
  | disabled => "disabled"

def all : List UserStatus := [enabled, disabled]

def ofName? (s : String) : Option UserStatus := all.find? fun u => u.name == s

end UserStatus

/-- What a resource is for those who govern access. -/
inductive Traits where
  | user (status : UserStatus) (profile : Profile)
  | role (profile : Profile)
  | app (profile : Profile)
  | group (profile : Profile)
  deriving Repr

/-- The profile within the traits. -/
def Traits.profile : Traits → Profile
  | user _ p => p
  | role p => p
  | app p => p
  | group p => p

/-- One node of the resource graph. -/
structure Resource where
  id : ResourceId
  displayName : String
  parent : Option ResourceId
  traits : Traits
  deriving Repr

/-- The kind of a resource. -/
def Resource.kind (r : Resource) : Kind := r.id.kind

end VaultAccess
