/-!
# Kinds of resources
-/
namespace VaultAccess

/-- The kinds of resources that one vault holds. -/
inductive Kind where
  | user
  | role
  | policy
  | secret
  | authMethod
  | group
  | entity
  deriving DecidableEq, Repr, Inhabited

namespace Kind

/-- All kinds, in the order in which they are walked. -/
def all : List Kind := [user, role, policy, secret, authMethod, group, entity]

/-- The name of a kind in ids and documents. -/
def name : Kind → String
  | user => "user"
  | role => "role"
  | policy => "policy"
  | secret => "secret"
  | authMethod => "auth_method"
  | group => "group"
  | entity => "entity"

/-- The name of a kind for people. -/
def title : Kind → String
  | user => "User"
  | role => "Role"
  | policy => "Policy"
  | secret => "Secret"
  | authMethod => "Auth Method"
  | group => "Group"
  | entity => "Entity"

/-- The kind with a name. -/
def ofName? (s : String) : Option Kind := all.find? fun k => k.name == s

/-- The names of all kinds. -/
def names : List String := all.map name

@[simp] theorem ofName?_name (k : Kind) : ofName? k.name = some k := by
  cases k <;> decide

theorem name_injective {j k : Kind} (h : j.name = k.name) : j = k := by
  have := ofName?_name j
  rw [h, ofName?_name] at this
  exact (Option.some.inj this).symm

end Kind

end VaultAccess
