import VaultAccess.Proofs.Connector.Callers

/-!
# Calls as sessions

A call among others does what its session does alone: what it asked and what it was given are a run
of the session, from a fresh memory or from the outcomes that are remembered.
-/
namespace VaultAccess.Connector

open Vault Program

/-- What a call does in a session of its own. -/
def Call.session (c : Connector) : Call → Session Reply
  | bootstrap => return .outcomes (← c.bootstrap)
  | validate => do
    Session.ofTask Connector.validate
    return .unit
  | list kind parent cursor => return .resources (← c.list kind parent cursor)
  | entitlements kind r => return .entitlements (← c.entitlements kind r)
  | grants kind r cursor => return .grants (← c.grants kind r cursor)
  | grant kind principal e => do
    c.grantVia kind principal e
    return .unit
  | revoke kind g => do
    c.revokeVia kind g
    return .unit

theorem Session.ofTask_bind {α β : Type} (t : Action α) (f : α → Action β) :
    Session.ofTask (t >>= f) = Session.ofTask t >>= fun a => Session.ofTask (f a) := by
  apply ExceptT.ext
  funext memory
  rw [Session.run_bind, Session.run_ofTask, Session.run_ofTask, Action.run_bind, bind_assoc,
    bind_assoc]
  congr 1
  funext r
  cases r <;> rfl

/-- What a mounted task gives may be given another form by the task. -/
theorem mounted_bind {α : Type} (c : Connector) (t : Action α) (f : α → Reply) :
    (c.mounted t >>= fun a => return f a) = Session.bootstrap c.backends >>= fun _ =>
      Session.ofTask (t >>= fun a => return f a) := by
  have hassoc : (c.mounted t >>= fun a => return f a) = Session.bootstrap c.backends >>= fun _ =>
      Session.ofTask t >>= fun a => return f a := bind_assoc _ _ _
  rw [hassoc, Session.ofTask_bind]
  rfl

/-- A session mounts the backends, if its call needs them, and then does what the call does by
itself. -/
theorem Call.session_eq (c : Connector) (call : Call) :
    call.session c =
      if call.mounts then Session.bootstrap c.backends >>= fun outcomes =>
        Session.ofTask (call.own c outcomes)
      else Session.ofTask (call.own c []) := by
  cases call with
  | bootstrap => rfl
  | validate => exact (Session.ofTask_bind Connector.validate fun _ => return Reply.unit).symm
  | list kind parent cursor => exact mounted_bind c _ Reply.resources
  | entitlements kind r => exact mounted_bind c _ Reply.entitlements
  | grants kind r cursor => exact mounted_bind c _ Reply.grants
  | grant kind principal e => exact mounted_bind c _ fun _ => .unit
  | revoke kind g => exact mounted_bind c _ fun _ => .unit

namespace Callers

variable {σ : Type} {c : Connector} {s : Callers σ} {i : Nat} {call : Call}
  {result : Except Fault Reply}

/-- What a task plays is played by the session of the task. -/
theorem plays_ofTask {α : Type} {t : Action α} {xs : List Exchange} {r : Except Fault α}
    (h : Plays t.run xs (done r)) (memory : Memory) :
    Plays ((Session.ofTask t).run memory) xs (done (r, memory)) := by
  have hdone := h.bind (f := fun r => done (r, memory)) (.stop _)
  rwa [List.append_nil] at hdone

/-- What a call does by itself is what its session does when outcomes are remembered. -/
theorem plays_session_of_own {xs : List Exchange} {outcomes : List Backend.Outcome}
    (h : Plays (call.own c outcomes).run xs (done result)) :
    Plays ((call.session c).run ⟨some outcomes⟩) xs (done (result, ⟨some outcomes⟩)) := by
  rw [Call.session_eq]
  cases hmounts : call.mounts with
  | true =>
    rw [if_pos rfl, run_bootstrap_bind_mounted]
    exact plays_ofTask h _
  | false =>
    obtain rfl := Call.eq_validate hmounts
    exact plays_ofTask (t := Call.validate.own c []) h _

/-- A call that is done among others has done what its session does, from a fresh memory or from
the outcomes that it found. -/
theorem plays_session (h : Disciplined c s) (hd : s.callers[i]? = some ⟨call, .done result⟩) :
    ∃ memory memory', Plays ((call.session c).run memory) (s.exchanges i)
      (done (result, memory')) := by
  have hfresh {pass own : List Exchange} {r : Except Fault (List Backend.Outcome)}
      {memory' : Memory} (hmounts : call.mounts = true) (hpass : Backend.Pass c.backends pass r)
      (hown : Plays (afterPass (fun outcomes => Session.ofTask (call.own c outcomes)) r) own
        (done (result, memory'))) :
      Plays ((call.session c).run .fresh) (pass ++ own) (done (result, memory')) := by
    rw [Call.session_eq, if_pos hmounts, run_bootstrap_bind_fresh]
    exact .note (hpass.plays.bind hown)
  rcases h.course i _ hd with
    ⟨hmounts, e, hpass, rfl⟩ | ⟨pass, own, outcomes, hsplit, hentered, hown⟩
  · have hplays := hfresh hmounts hpass (.stop _)
    rw [List.append_nil] at hplays
    exact ⟨.fresh, .fresh, hplays⟩
  · rw [hsplit]
    rcases hentered with ⟨-, rfl⟩ | ⟨hmounts, -, rfl | hpass⟩
    · exact ⟨_, _, plays_session_of_own hown⟩
    · exact ⟨_, _, plays_session_of_own hown⟩
    · exact ⟨.fresh, _, hfresh hmounts hpass (plays_ofTask hown _)⟩

end Callers

end VaultAccess.Connector
