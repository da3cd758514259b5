import VaultAccess.Backend.Bootstrap

/-!
# Sessions

A session remembers the outcomes of its first successful mounting pass. A pass that fails leaves
nothing behind, and the next caller tries again.
-/
namespace VaultAccess.Connector

open Vault

/-- What a session remembers. -/
structure Memory where
  outcomes : Option (List Backend.Outcome)
  deriving DecidableEq, Repr

def Memory.fresh : Memory := ⟨none⟩

/-- A program that may fail and shares the session's memory. -/
abbrev Session := ExceptT Fault (StateT Memory Program)

namespace Session

/-- A task that leaves the memory alone. -/
def ofTask {α : Type} (t : Action α) : Session α :=
  .mk fun memory => t.run.bind fun r => .done (r, memory)

/-- Mount the backends unless that has been done. -/
def bootstrap (backends : List Backend) : Session (List Backend.Outcome) := do
  match (← get).outcomes with
  | some outcomes => return outcomes
  | none =>
    ofTask (Action.note .info
      ("Bootstrapping " ++ toString backends.length ++ " backend(s)"))
    let outcomes ← ofTask (Backend.ensureAll backends)
    set (Memory.mk (some outcomes))
    return outcomes

end Session

end VaultAccess.Connector
