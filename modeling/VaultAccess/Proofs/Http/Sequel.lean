import VaultAccess.Proofs.Http.Outgoing

/-!
# What follows a message

A wire carries messages one after another. A message is carried for a request or because the reply
to the one before it sent that on. What is sent on goes where the reply says, and still identifies
the caller.
-/
namespace VaultAccess.Http

open Vault

variable {σ τ : Type} {wire : Wire σ}

/-! ## Messages that are sent on -/

/-- That the reply to a message sends it on as another one. -/
def SentOn (x : Message × Delivery) (m : Message) : Prop := x.1.next? x.2 = some (.ok m)

/-- A message with what came of it, and then what the replies send it on as, so many times at
most. -/
inductive Trail : Nat → Message → List (Message × Delivery) → Prop
  | last (hops : Nat) (m : Message) (delivery : Delivery) : Trail hops m [(m, delivery)]
  | on {hops : Nat} {m next : Message} {delivery : Delivery} {xs : List (Message × Delivery)}
      (hsent : SentOn (m, delivery) next) (rest : Trail hops next xs) :
      Trail (hops + 1) m ((m, delivery) :: xs)

/-- The trails of messages, one after another. -/
inductive Trails : List Message → List (Message × Delivery) → Prop
  | nil : Trails [] []
  | cons {m : Message} {ms : List Message} {xs ys : List (Message × Delivery)}
      (trail : Trail maxRedirections m xs) (rest : Trails ms ys) : Trails (m :: ms) (xs ++ ys)

section

variable {Q : Message → Prop} {m : Message} {ms : List Message} {hops : Nat}
  {xs : List (Message × Delivery)}

theorem Trails.eq_nil (h : Trails [] xs) : xs = [] := by
  cases h
  rfl

end

/-! ## Following -/

namespace Wire

variable {hops : Nat} {m next : Message} {s : σ} {e : Fault}

/-- A message that is not sent on is the last one. -/
theorem follow_of_none (hops : Nat) (h : m.next? (wire m s).1 = none) :
    wire.follow hops m s = (.ok (m, (wire m s).1), (wire m s).2) := by
  cases hops <;> simp only [follow, Http.follow, StateT.run, bind, StateT.bind, h] <;> rfl

theorem follow_zero {r : Except Fault Message} (h : m.next? (wire m s).1 = some r) :
    wire.follow 0 m s = (.error m.tooFar, (wire m s).2) := by
  simp only [follow, Http.follow, StateT.run, bind, StateT.bind, h]
  rfl

theorem follow_of_error (h : m.next? (wire m s).1 = some (.error e)) :
    wire.follow (hops + 1) m s = (.error e, (wire m s).2) := by
  simp only [follow, Http.follow, StateT.run, bind, StateT.bind, h]
  rfl

theorem follow_of_ok (h : m.next? (wire m s).1 = some (.ok next)) :
    wire.follow (hops + 1) m s = wire.follow hops next (wire m s).2 := by
  simp only [follow, Http.follow, StateT.run, bind, StateT.bind, h]

/-- A wire that keeps more than another one, and delivers as that does, follows as that does. -/
theorem follow_project {wire' : Wire τ} (project : τ → σ)
    (hwire : ∀ m t, (wire' m t).1 = (wire m (project t)).1 ∧
      project (wire' m t).2 = (wire m (project t)).2) (hops : Nat) (m : Message) (t : τ) :
    (wire'.follow hops m t).1 = (wire.follow hops m (project t)).1 ∧
      project (wire'.follow hops m t).2 = (wire.follow hops m (project t)).2 := by
  induction hops generalizing m t with
  | zero =>
    obtain ⟨hdelivery, hstate⟩ := hwire m t
    cases hsent : m.next? (wire' m t).1 with
    | none =>
      rw [follow_of_none 0 hsent, follow_of_none 0 (hdelivery ▸ hsent), hdelivery]
      exact ⟨rfl, hstate⟩
    | some r =>
      rw [follow_zero hsent, follow_zero (hdelivery ▸ hsent)]
      exact ⟨rfl, hstate⟩
  | succ hops ih =>
    obtain ⟨hdelivery, hstate⟩ := hwire m t
    cases hsent : m.next? (wire' m t).1 with
    | none =>
      rw [follow_of_none _ hsent, follow_of_none _ (hdelivery ▸ hsent), hdelivery]
      exact ⟨rfl, hstate⟩
    | some r =>
      cases r with
      | error e =>
        rw [follow_of_error hsent, follow_of_error (hdelivery ▸ hsent)]
        exact ⟨rfl, hstate⟩
      | ok next =>
        rw [follow_of_ok hsent, follow_of_ok (hdelivery ▸ hsent), ← hstate]
        exact ih next _

/-- The wire, with the messages that it has carried, in order, and what came of them. -/
def recording (wire : Wire σ) : Wire (σ × List (Message × Delivery)) := fun m (s, carried) =>
  ((wire m s).1, (wire m s).2, carried ++ [(m, (wire m s).1)])

end Wire

end VaultAccess.Http
