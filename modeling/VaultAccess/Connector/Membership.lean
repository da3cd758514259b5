import VaultAccess.Graph.Document
import VaultAccess.Paging.Step
import VaultAccess.Vault.Client

/-!
# Policy membership

The vault keeps a user's policies as one list that is only replaced as a whole, so a change reads
the list and writes it back. Who holds a policy is found by reading every user.
-/
namespace VaultAccess.Membership

open Vault

/-- The users among these who hold a policy. -/
def holders (policy : String) : List String → Action (List String)
  | [] => return []
  | user :: rest => do
    let policies ← userPolicies user
    let others ← holders policy rest
    return if policy ∈ policies then user :: others else others

/-- One paging step, with a line in the log for each page. -/
def loggedPage {ρ α : Type} (cursor : String) (kind : Kind)
    (fetch : Option String → Action (Paging.Batch ρ)) (map : ρ → α) : Action (Paging.Page α) :=
  Paging.listPage cursor kind
    (fun marker => do
      let batch ← fetch marker
      Action.note .debug "fetched page"
      return batch)
    map

/-- One page of the users who hold a policy. -/
def grants (pageSize : Nat) (policy : Resource) (cursor : String) : Action (Paging.Page Grant) :=
  loggedPage cursor .user
    (fun marker => do
      let users ← listUsers
      let window ← Action.ofExcept (Paging.window users marker pageSize)
      let found ← holders policy.id.name window.records
      return ⟨found, window.next⟩)
    fun user => ⟨policy.id, assigned, ⟨.user, user⟩⟩

/-- The user and policy of a change; only users change, and only policies are held. -/
def parties (change : Change) (principal entitlement : ResourceId) : Action (String × String) := do
  if principal.kind ≠ .user then
    Action.note .warn (match change with
      | .grant => "only users can be granted policy membership"
      | .revoke => "only users can have policy membership revoked")
    throw (.principalKind principal.kind)
  if entitlement.kind ≠ .policy then
    throw (.unsupported entitlement.kind change)
  return (principal.name, entitlement.name)

/-- Append a policy to a user's list; a policy may be there more than once. -/
def append (user policy : String) : Action Unit := do
  let policies ← userPolicies user
  updateUserPolicies user (policies ++ [policy])
  Action.note .info ("Granted policy " ++ policy ++ " to user " ++ user)

/-- Remove the first occurrence of a policy from a user's list. -/
def remove (user policy : String) : Action Unit := do
  let policies ← userPolicies user
  if policy ∉ policies then
    Action.note .warn ("User " ++ user ++ " does not have policy " ++ policy)
    throw (.notAssigned user policy)
  updateUserPolicies user (policies.erase policy)
  Action.note .info ("Revoked policy " ++ policy ++ " from user " ++ user)

/-- What a change does while it holds the lock of a user. -/
def underLock (change : Change) (user policy : String) : Action Unit := do
  Action.note .debug ("Holding membership lock for user " ++ user)
  match change with
  | .grant => append user policy
  | .revoke => remove user policy

/-- Let a user hold the policy of an entitlement. -/
def grant (principal : ResourceId) (entitlement : Entitlement) : Action Unit := do
  let (user, policy) ← parties .grant principal entitlement.resource
  underLock .grant user policy

/-- Take the policy of a grant from its user. -/
def revoke (g : Grant) : Action Unit := do
  let (user, policy) ← parties .revoke g.principal g.entitlement
  underLock .revoke user policy

end VaultAccess.Membership
