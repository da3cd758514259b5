import VaultAccess.Connector.Membership
import VaultAccess.Proofs.Vault.Trace

/-!
# One change of a user's policies

Whatever is answered, a change is one reading of the user's list and at most one replacement of
it, by the list that was read with the policy appended or its first occurrence removed.
-/
namespace VaultAccess

open Vault Program

namespace Vault

theorem Endpoint.user_ok {name suffix path : String} (h : Endpoint.user name suffix = .ok path) :
    path = Endpoint.users ++ "/" ++ Text.Percent.encode name ++ suffix := by
  unfold Endpoint.user at h
  split at h
  · cases h
  · exact (Except.ok.inj h).symm

theorem Endpoint.user_suffix {name path : String} (suffix : String)
    (h : Endpoint.user name "" = .ok path) : Endpoint.user name suffix = .ok (path ++ suffix) := by
  have hpath := Endpoint.user_ok h
  unfold Endpoint.user at h ⊢
  split
  · rename_i bad
    rw [if_pos bad] at h
    cases h
  · rw [hpath]
    simp

/-- The policies that an answer about a user tells. -/
def policiesIn (answer : Answer) : Except Fault (List String) :=
  answer.bind fun r => (r.read UserAnswer.ofJson).map fun a => a.data.policyList

/-- Whether an answer says that a replacement was made. -/
def accepted (answer : Answer) : Except Fault Unit :=
  answer.bind fun r => r.requireSuccess.map fun _ => ()

theorem run_userPolicies_of_error {name : String} {e : Fault}
    (h : Endpoint.user name "" = .error e) : (userPolicies name).run = done (.error e) := by
  simp [userPolicies, getUser, h]

theorem run_userPolicies {name path : String} (h : Endpoint.user name "" = .ok path) :
    (userPolicies name).run = ask (.get path) fun answer => done (policiesIn answer) := by
  simp only [userPolicies, getUser, getValue, h, Action.run_bind, Action.run_ofExcept, bind_done,
    Action.andThen_ok, Action.run_request, ask_bind]
  congr 1
  funext answer
  cases answer with
  | error e => rfl
  | ok r =>
    cases hr : r.read UserAnswer.ofJson with
    | error e => simp [policiesIn, Except.bind, Except.map, hr]
    | ok a => simp [policiesIn, Except.bind, Except.map, UserAnswer.record, hr]

theorem run_updateUserPolicies {name path : String} (policies : List String)
    (h : Endpoint.user name "" = .ok path) :
    (updateUserPolicies name policies).run =
      ask (.post (path ++ "/policies") (policiesBody policies)) fun answer =>
        done (accepted answer) := by
  simp only [updateUserPolicies, Endpoint.user_suffix _ h, Action.run_bind, Action.run_ofExcept,
    bind_done, Action.andThen_ok, Action.run_request, ask_bind]
  congr 1
  funext answer
  cases answer with
  | error e => rfl
  | ok r =>
    cases hr : r.requireSuccess with
    | error e => simp [accepted, Except.bind, Except.map, hr]
    | ok r => simp [accepted, Except.bind, Except.map, hr]

end Vault

namespace Membership

/-- What a change makes of a user's list. -/
def revised (change : Change) (user policy : String) (policies : List String) :
    Except Fault (List String) :=
  match change with
  | .grant => .ok (policies ++ [policy])
  | .revoke =>
    if policy ∈ policies then .ok (policies.erase policy)
    else .error (.notAssigned user policy)

/-- The line in the log for a change that was made. -/
def madeLine (change : Change) (user policy : String) : LogLine :=
  match change with
  | .grant => ⟨.info, "Granted policy " ++ policy ++ " to user " ++ user⟩
  | .revoke => ⟨.info, "Revoked policy " ++ policy ++ " from user " ++ user⟩

/-- The line in the log for a change that holds the lock. -/
def holdingLine (user : String) : LogLine :=
  ⟨.debug, "Holding membership lock for user " ++ user⟩

/-- The line in the log for a policy that the user does not have. -/
def missingLine (user policy : String) : LogLine :=
  ⟨.warn, "User " ++ user ++ " does not have policy " ++ policy⟩

/-- Replace the list of the user at a path, and note it. -/
def replacing (path : String) (policies : List String) (line : LogLine) :
    Program (Except Fault Unit) :=
  ask (.post (path ++ "/policies") (policiesBody policies)) fun answer =>
    match accepted answer with
    | .error e => done (.error e)
    | .ok () => note line (done (.ok ()))

/-- What a change does once the list of the user at a path was read. -/
def afterRead (change : Change) (user policy path : String) (policies : List String) :
    Program (Except Fault Unit) :=
  match revised change user policy policies with
  | .error e => note (missingLine user policy) (done (.error e))
  | .ok next => replacing path next (madeLine change user policy)

theorem run_underLock_of_error (change : Change) {user : String} (policy : String) {e : Fault}
    (h : Endpoint.user user "" = .error e) :
    (underLock change user policy).run = note (holdingLine user) (done (.error e)) := by
  cases change <;>
    simp [underLock, append, remove, run_userPolicies_of_error h, holdingLine]

theorem run_replacing {user path : String} (policies : List String) (level : Level)
    (text : String) (h : Endpoint.user user "" = .ok path) :
    (updateUserPolicies user policies >>= fun _ => Action.note level text).run =
      replacing path policies ⟨level, text⟩ := by
  simp only [Action.run_bind, run_updateUserPolicies policies h, ask_bind, bind_done, replacing]
  congr 1
  funext answer
  cases accepted answer <;> rfl

theorem run_append {user path : String} (policy : String)
    (h : Endpoint.user user "" = .ok path) :
    (append user policy).run = ask (.get path) fun answer =>
      match policiesIn answer with
      | .error e => done (.error e)
      | .ok policies => afterRead .grant user policy path policies := by
  simp only [append, Action.run_bind, run_userPolicies h, ask_bind, bind_done]
  congr 1
  funext answer
  cases policiesIn answer with
  | error e => rfl
  | ok policies => exact run_replacing _ _ _ h

theorem run_remove {user path : String} (policy : String)
    (h : Endpoint.user user "" = .ok path) :
    (remove user policy).run = ask (.get path) fun answer =>
      match policiesIn answer with
      | .error e => done (.error e)
      | .ok policies => afterRead .revoke user policy path policies := by
  simp only [remove, Action.run_bind, run_userPolicies h, ask_bind, bind_done]
  congr 1
  funext answer
  cases policiesIn answer with
  | error e => rfl
  | ok policies =>
    by_cases held : policy ∈ policies
    · have hnext := run_replacing (policies.erase policy) .info
        ("Revoked policy " ++ policy ++ " from user " ++ user) h
      simpa [afterRead, revised, held, madeLine] using hnext
    · simp [afterRead, revised, held, missingLine]

theorem run_underLock (change : Change) {user path : String} (policy : String)
    (h : Endpoint.user user "" = .ok path) :
    (underLock change user policy).run =
      note (holdingLine user) (ask (.get path) fun answer =>
        match policiesIn answer with
        | .error e => done (.error e)
        | .ok policies => afterRead change user policy path policies) := by
  cases change with
  | grant => simp [underLock, run_append policy h, holdingLine]
  | revoke => simp [underLock, run_remove policy h, holdingLine]

/-- A change for a principal and an entitlement. -/
def perform (change : Change) (principal entitlement : ResourceId) : Action Unit :=
  parties change principal entitlement >>= fun p => underLock change p.1 p.2

theorem grant_eq_perform (principal : ResourceId) (e : Entitlement) :
    grant principal e = perform .grant principal e.resource := rfl

theorem revoke_eq_perform (g : Grant) : revoke g = perform .revoke g.principal g.entitlement := rfl

/-- A change of a policy for a user is made under the user's lock. -/
theorem run_perform (change : Change) {principal entitlement : ResourceId}
    (hprincipal : principal.kind = .user) (hentitlement : entitlement.kind = .policy) :
    (perform change principal entitlement).run =
      (underLock change principal.name entitlement.name).run := by
  simp [perform, parties, hprincipal, hentitlement]

/-- A request that reads or replaces the list of one user. -/
def Concerns (user : String) (r : Request) : Prop :=
  ∃ path, Endpoint.user user "" = .ok path ∧
    (r = .get path ∨ ∃ policies, r = .post (path ++ "/policies") (policiesBody policies))

/-- Whatever is answered, a change asks about its own user only. -/
theorem underLock_obeys (change : Change) (user policy : String) :
    (underLock change user policy).run.Obeys (Concerns user) fun _ => True := by
  cases hpath : Endpoint.user user "" with
  | error e =>
    rw [run_underLock_of_error change policy hpath]
    trivial
  | ok path =>
    rw [run_underLock change policy hpath, obeys_note, obeys_ask]
    refine ⟨⟨path, hpath, .inl rfl⟩, fun answer => ?_⟩
    cases policiesIn answer with
    | error e => trivial
    | ok policies =>
      simp only [afterRead]
      cases revised change user policy policies with
      | error e => trivial
      | ok next =>
        refine ⟨⟨path, hpath, .inr ⟨next, rfl⟩⟩, fun answer => ?_⟩
        dsimp only
        cases accepted answer <;> trivial

end Membership

end VaultAccess
