import VaultAccess.Graph.Kind

/-!
# Faults

Why an operation on the vault failed, how that is worded, and whether the same call may be
repeated.
-/
namespace VaultAccess

/-- A change of who holds an entitlement. -/
inductive Change where
  | grant
  | revoke
  deriving DecidableEq, Repr

def Change.name : Change → String
  | .grant => "grant"
  | .revoke => "revoke"

/-- Why an operation failed. -/
inductive Fault where
  /-- A cursor that no page gave out. -/
  | cursor (reason : String)
  /-- The vault was not reached, or answered with an error status. -/
  | transport (status : Option Nat) (message : String)
  /-- The caller aborted the request. -/
  | cancelled
  /-- Only users can be members of a policy. -/
  | principalKind (kind : Kind)
  /-- The user does not hold the policy that is to be taken away. -/
  | notAssigned (user policy : String)
  /-- Resources of this kind do not support the change. -/
  | unsupported (kind : Kind) (change : Change)
  /-- A backend could not be mounted. -/
  | bootstrap (path : String) (source : Fault)
  /-- A name that is no single path segment. -/
  | invalidName (name : String)
  /-- Settings that cannot be used. -/
  | settings (reason : String)
  /-- An answer whose body does not have the expected shape. -/
  | payload (reason : String)
  deriving DecidableEq, Repr, Inhabited

namespace Fault

/-- The wording of a fault. -/
def message : Fault → String
  | cursor reason => "malformed pagination cursor: " ++ reason
  | transport (some status) text =>
    "vault request failed (" ++ toString status ++ "): " ++ text
  | transport none text => "vault request failed: " ++ text
  | cancelled => "vault request cancelled"
  | principalKind kind =>
    "only users can hold policy membership, got principal of kind " ++ kind.name
  | notAssigned user policy => "user " ++ user ++ " does not have policy " ++ policy
  | unsupported kind change =>
    change.name ++ " is not supported for " ++ kind.name ++ " resources"
  | bootstrap path source => "failed to enable backend at '" ++ path ++ "': " ++ source.message
  | invalidName name => "'" ++ name ++ "' is not a valid vault object name"
  | settings reason => "invalid configuration: " ++ reason
  | payload reason => "failed to decode vault response: " ++ reason

/-- The wording of a fault, and that of every fault it came from. -/
def causes : Fault → List String
  | bootstrap path source => message (.bootstrap path source) :: source.causes
  | payload reason => [message (.payload reason), reason]
  | f => [f.message]

/-- Whether the caller may repeat the same call: the request was aborted, nothing answered, or the
server was at fault or busy. -/
def isRetryable : Fault → Bool
  | cancelled => true
  | transport none _ => true
  | transport (some status) _ => 500 ≤ status || status == 429
  | bootstrap _ source => source.isRetryable
  | _ => false

end Fault

end VaultAccess
