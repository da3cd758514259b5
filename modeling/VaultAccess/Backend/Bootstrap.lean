import VaultAccess.Vault.Client

/-!
# Mounting the backends

A path that is taken already counts as success, so mounting may be repeated. A pass stops at the
first backend that cannot be mounted.
-/
namespace VaultAccess.Backend

open Vault

/-- How a backend came to be mounted. -/
inductive Outcome where
  | enabled
  | alreadyEnabled
  deriving DecidableEq, Repr

/-- Whether one list occurs within another. -/
def occursIn {α : Type} [BEq α] (part : List α) : List α → Bool
  | [] => part.isEmpty
  | c :: rest => part.isPrefixOf (c :: rest) || occursIn part rest

/-- How the vault words that a path is taken. -/
def alreadyInUse : String := "path is already in use"

/-- Whether an answer says that the path is taken. -/
def saysInUse (r : Response) : Bool :=
  r.status == 400 && r.errorMessages.any fun m => occursIn alreadyInUse.toList m.toList

/-- What an answer to enabling a backend means. -/
def classify (b : Backend) (r : Response) : Except Fault Outcome :=
  if r.isSuccess then .ok .enabled
  else if saysInUse r then .ok .alreadyEnabled
  else .error (.bootstrap b.path r.fault)

/-- Mount one backend. -/
def ensure (b : Backend) : Action Outcome := do
  let response ← tryCatch (enableBackend b) fun e => throw (.bootstrap b.path e)
  match classify b response with
  | .ok .enabled =>
    Action.note .info ("Enabled " ++ b.engine ++ " backend at " ++ b.path)
    return .enabled
  | .ok .alreadyEnabled =>
    Action.note .debug ("Backend already mounted at " ++ b.path)
    return .alreadyEnabled
  | .error e =>
    Action.note .warn ("Failed to enable backend at " ++ b.path ++ ": " ++ e.message)
    throw e

/-- Mount backends in order. -/
def ensureAll : List Backend → Action (List Outcome)
  | [] => return []
  | b :: rest => do
    let outcome ← ensure b
    let outcomes ← ensureAll rest
    return outcome :: outcomes

end VaultAccess.Backend
