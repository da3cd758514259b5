import VaultAccess.Connector.Membership

/-!
# The lock table

Changes to one user take turns. A user's lock is made when a change first needs it and is removed
from the table when no change has a handle on it any more. Changes run side by side; a step is one
step of one of them, and which one is open.
-/
namespace VaultAccess.Membership

open Vault

/-- How far a change is. Locks are told apart by the order in which they were made. -/
inductive Stage where
  /-- It has not looked up its user's lock. -/
  | start
  /-- It has a handle on a lock and waits for the lock. -/
  | waiting (lock : Nat)
  /-- It holds a lock, and this is left to do. -/
  | inside (lock : Nat) (rest : Program (Except Fault Unit))
  /-- It has given the lock back and still has the handle. -/
  | released (lock : Nat) (result : Except Fault Unit)
  /-- It has dropped the handle and has not cleaned the table. -/
  | dropped (result : Except Fault Unit)
  | done (result : Except Fault Unit)

namespace Stage

/-- The lock on which a change has a handle. -/
def handle? : Stage → Option Nat
  | waiting lock | inside lock _ | released lock _ => some lock
  | start | dropped _ | done _ => none

/-- The lock that a change holds. -/
def held? : Stage → Option Nat
  | inside lock _ => some lock
  | _ => none

/-- What a change came to. -/
def result? : Stage → Option (Except Fault Unit)
  | done result => some result
  | _ => none

end Stage

/-- A change of one policy of one user, and how far it is. -/
structure Call where
  change : Change
  user : String
  policy : String
  stage : Stage

/-- The lock table, the changes that share it, and what they ask. -/
structure Locks (σ : Type) where
  /-- The lock of each user that has one. -/
  table : List (String × Nat)
  /-- How many locks have been made. -/
  made : Nat
  calls : List Call
  vault : σ

namespace Locks

variable {σ : Type}

/-- Changes that are all about to start. -/
def start (calls : List (Change × String × String)) (vault : σ) : Locks σ :=
  ⟨[], 0, calls.map fun (change, user, policy) => ⟨change, user, policy, .start⟩, vault⟩

/-- Whether a change holds a lock. -/
def isHeld (s : Locks σ) (lock : Nat) : Bool := s.calls.any fun c => c.stage.held? == some lock

/-- How many changes have a handle on a lock. -/
def handles (s : Locks σ) (lock : Nat) : Nat := s.calls.countP fun c => c.stage.handle? == some lock

/-- The table without a user's lock, if no change has a handle on it. -/
def cleaned (s : Locks σ) (user : String) : List (String × Nat) :=
  if (s.table.lookup user).any fun lock => s.handles lock == 0 then
    s.table.filter (·.1 != user)
  else s.table

/-- The table with a lock for a user, that lock, and how many have been made. -/
def lockOf (s : Locks σ) (user : String) : List (String × Nat) × Nat × Nat :=
  match s.table.lookup user with
  | some lock => (s.table, lock, s.made)
  | none => ((user, s.made) :: s.table, s.made, s.made + 1)

/-- The state with one change at another stage. -/
def setStage (s : Locks σ) (i : Nat) (stage : Stage) : Locks σ :=
  { s with calls := s.calls.modify i fun c => { c with stage } }

/-- One step of a change, if it can take one: a change waits while another one holds its lock. -/
def step (g : Program.Gateway σ) (s : Locks σ) (i : Nat) : Option (Locks σ) :=
  match s.calls[i]? with
  | none => none
  | some c =>
    match c.stage with
    | .start =>
      let (table, lock, made) := s.lockOf c.user
      some ({ s with table, made }.setStage i (.waiting lock))
    | .waiting lock =>
      if s.isHeld lock then none
      else some (s.setStage i (.inside lock (underLock c.change c.user c.policy).run))
    | .inside lock (.done result) => some (s.setStage i (.released lock result))
    | .inside lock (.ask r next) =>
      let (answer, vault) := g.answer r s.vault
      some ({ s with vault }.setStage i (.inside lock (next answer)))
    | .inside lock (.note line next) =>
      some ({ s with vault := g.log line s.vault }.setStage i (.inside lock next))
    | .released _ result => some (s.setStage i (.dropped result))
    | .dropped result => some ({ s with table := s.cleaned c.user }.setStage i (.done result))
    | .done _ => none

/-- The state after steps of the named changes, if each of them can take its step. Every change
asks through a gateway of its own. -/
def steps (g : Nat → Program.Gateway σ) (s : Locks σ) (order : List Nat) : Option (Locks σ) :=
  order.foldlM (fun s i => step (g i) s i) s

end Locks

end VaultAccess.Membership
