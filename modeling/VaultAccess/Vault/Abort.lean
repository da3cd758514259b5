import VaultAccess.Fault

/-!
# Aborting what runs

Runs share a handle. An abort reaches every run that is under way at that moment and none that
starts later. A run returns when it is next looked at: with its task's result if the task is done
and no abort reached the run, as cancelled if one did and the task is not done, and with either if
both hold.
-/
namespace VaultAccess.Vault.Abort

/-- A task that runs under a handle. -/
structure Run (α : Type) where
  /-- Whether an abort landed since the run started. -/
  isAborted : Bool
  /-- What the task gave, once it is done. -/
  result : Option (Except Fault α)
  /-- What the run returned, once it has. -/
  answer : Option (Except Fault α)

/-- A handle, with the runs that were started under it in order. -/
structure Handle (α : Type) where
  aborts : UInt64
  runs : List (Run α)

/-- What happens under a handle. Runs are named by their place in the order of starts. -/
inductive Event (α : Type) where
  | start
  /-- The task of a run is done. -/
  | finish (run : Nat) (result : Except Fault α)
  | abort
  /-- A run is looked at; where result and abort are both there, the choice falls on either. -/
  | poll (run : Nat) (prefersResult : Bool)

variable {α : Type}

namespace Run

def start : Run α := ⟨false, none, none⟩

/-- The task is done; it is done once. -/
def finish (result : Except Fault α) (r : Run α) : Run α :=
  { r with result := r.result <|> some result }

def abort (r : Run α) : Run α := { r with isAborted := true }

/-- What a run that has not returned returns when it is looked at. -/
def next (prefersResult : Bool) (r : Run α) : Option (Except Fault α) :=
  match r.result with
  | some result => some (if r.isAborted ∧ !prefersResult then .error .cancelled else result)
  | none => if r.isAborted then some (.error .cancelled) else none

/-- Look at a run; one that has returned stays as it is. -/
def poll (prefersResult : Bool) (r : Run α) : Run α :=
  { r with answer := r.answer <|> r.next prefersResult }

end Run

namespace Handle

/-- A handle under which nothing has run. -/
def fresh : Handle α := ⟨0, []⟩

def step (h : Handle α) : Event α → Handle α
  | .start => { h with runs := h.runs ++ [.start] }
  | .finish i result => { h with runs := h.runs.modify i (Run.finish result) }
  | .abort => ⟨h.aborts + 1, h.runs.map Run.abort⟩
  | .poll i prefersResult => { h with runs := h.runs.modify i (Run.poll prefersResult) }

def steps (h : Handle α) (events : List (Event α)) : Handle α := events.foldl step h

/-- What a run returned. -/
def answer? (h : Handle α) (i : Nat) : Option (Except Fault α) := h.runs[i]?.bind Run.answer

end Handle

end VaultAccess.Vault.Abort
