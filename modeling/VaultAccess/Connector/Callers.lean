import VaultAccess.Connector.Basic

/-!
# Callers side by side

Calls on a connector and on the syncers it hands out share the memory of one session. One caller at
a time runs a mounting pass while the others wait; a caller that finds the backends mounted goes on
at once. A step is one step of one caller, and which one is open. Changes of one user also take
turns on a lock, which leaves out some of these runs and adds none.
-/
namespace VaultAccess.Connector

open Vault Paging

/-- What a caller may ask. What depends on a kind is asked of the syncer of that kind. -/
inductive Call where
  | bootstrap
  | validate
  | list (kind : Kind) (parent : Option ResourceId) (cursor : String)
  | entitlements (kind : Kind) (r : Resource)
  | grants (kind : Kind) (r : Resource) (cursor : String)
  | grant (kind : Kind) (principal : ResourceId) (e : Entitlement)
  | revoke (kind : Kind) (g : Grant)

/-- What a caller is given. -/
inductive Reply where
  | outcomes (outcomes : List Backend.Outcome)
  | resources (page : Page Resource)
  | entitlements (page : Page Entitlement)
  | grants (page : Page Grant)
  | unit

namespace Call

/-- Whether the backends are to be mounted before a call. -/
def mounts : Call → Bool
  | validate => false
  | _ => true

/-- What a call does by itself, once the backends are mounted. -/
def own (c : Connector) (outcomes : List Backend.Outcome) : Call → Action Reply
  | bootstrap => return .outcomes outcomes
  | validate => do
    Connector.validate
    return .unit
  | list kind parent cursor => return .resources (← c.listKind kind parent cursor)
  | entitlements kind r => return .entitlements (entitlementsOf kind r)
  | grants kind r cursor => return .grants (← c.grantsOf kind r cursor)
  | grant kind principal e => do
    grantOn kind principal e
    return .unit
  | revoke kind g => do
    revokeOn kind g
    return .unit

end Call

/-- How far a caller is. -/
inductive Stage where
  /-- It has not begun, or waits for the pass of another caller. -/
  | waiting
  /-- It looks for the outcomes of a pass, or runs one, and this is left to do. -/
  | mounting (rest : Program (Except Fault (List Backend.Outcome) × Memory))
  /-- It does what the call does by itself, and this is left to do. -/
  | running (rest : Program (Except Fault Reply))
  | done (result : Except Fault Reply)

namespace Stage

/-- Whether a caller is at its mounting pass. -/
def isMounting : Stage → Bool
  | mounting _ => true
  | _ => false

/-- The stage of a call after a mounting pass. -/
def afterPass (c : Connector) (call : Call) : Except Fault (List Backend.Outcome) → Stage
  | .ok outcomes => running (call.own c outcomes).run
  | .error e => done (.error e)

end Stage

/-- A caller, and how far it is. -/
structure Caller where
  call : Call
  stage : Stage

/-- What a session remembers, the callers that share it, and what they asked, in order and with the
place of the caller. -/
structure Callers (σ : Type) where
  memory : Memory
  callers : List Caller
  sent : List (Nat × Exchange)
  vault : σ

namespace Callers

variable {σ : Type}

/-- Callers that are all about to begin, in a fresh session. -/
def start (calls : List Call) (vault : σ) : Callers σ :=
  ⟨.fresh, calls.map fun call => ⟨call, .waiting⟩, [], vault⟩

/-- What one caller asked. -/
def exchanges (s : Callers σ) (i : Nat) : List Exchange :=
  (s.sent.filter fun p => p.1 == i).map (·.2)

/-- Whether some caller is at its mounting pass. -/
def isMounting (s : Callers σ) : Bool := s.callers.any fun d => d.stage.isMounting

/-- The state with one caller at another stage. -/
def setStage (s : Callers σ) (i : Nat) (stage : Stage) : Callers σ :=
  { s with callers := s.callers.modify i fun d => { d with stage } }

/-- The state after a caller asked a request. -/
def asked (g : Program.Gateway σ) (s : Callers σ) (i : Nat) (r : Request) : Callers σ :=
  let (answer, vault) := g.answer r s.vault
  { s with vault, sent := s.sent ++ [(i, ⟨r, answer⟩)] }

/-- One step of a caller, if it can take one: while nothing is remembered, a caller that needs the
backends waits for one that is mounting them. -/
def step (c : Connector) (g : Program.Gateway σ) (s : Callers σ) (i : Nat) : Option (Callers σ) :=
  match s.callers[i]? with
  | none => none
  | some d =>
    match d.stage with
    | .waiting =>
      if d.call.mounts then
        if s.memory.outcomes.isNone && s.isMounting then none
        else some (s.setStage i (.mounting ((Session.bootstrap c.backends).run s.memory)))
      else some (s.setStage i (.running (d.call.own c []).run))
    | .mounting (.done (r, memory)) => some ({ s with memory }.setStage i (.afterPass c d.call r))
    | .mounting (.ask r next) =>
      some ((s.asked g i r).setStage i (.mounting (next (g.answer r s.vault).1)))
    | .mounting (.note line next) =>
      some ({ s with vault := g.log line s.vault }.setStage i (.mounting next))
    | .running (.done result) => some (s.setStage i (.done result))
    | .running (.ask r next) =>
      some ((s.asked g i r).setStage i (.running (next (g.answer r s.vault).1)))
    | .running (.note line next) =>
      some ({ s with vault := g.log line s.vault }.setStage i (.running next))
    | .done _ => none

/-- The state after steps of the named callers, if each of them can take its step. Every caller
asks through a gateway of its own. -/
def steps (c : Connector) (g : Nat → Program.Gateway σ) (s : Callers σ) (order : List Nat) :
    Option (Callers σ) :=
  order.foldlM (fun s i => step c (g i) s i) s

end Callers

end VaultAccess.Connector
