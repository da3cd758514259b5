import VaultAccess.Connector.FullSync
import VaultAccess.Proofs.Connector.Change
import VaultAccess.Proofs.Connector.Mounting
import VaultAccess.Proofs.Vault.Server

/-!
# What a connector writes

Whatever a vault answers, operations write in two ways only: a mounting pass enables the
configured backends, and a change of a user's policies replaces the list that it has just read.
-/
namespace VaultAccess

open Vault Program

/-! ## Reading -/

namespace Vault

/-- A request that does not write. -/
def IsRead (r : Request) : Prop := r.method ≠ .post

theorem isRead_list (path : String) : IsRead (.list path) := fun h => nomatch h

theorem isRead_get (path : String) : IsRead (.get path) := fun h => nomatch h

section

variable {P : Request → Prop} {path : String}

theorem listKeys_asks (h : P (.list path)) : (listKeys path).Asks P := by
  refine .bind (.request h) fun response => ?_
  split
  · exact .bind (.note _ _) fun _ => .pure _
  · exact .ofExcept _

theorem getValue_asks {α : Type} (decode : Json → Except Mismatch α) (h : P (.get path)) :
    (getValue decode path).Asks P :=
  .bind (.request h) fun _ => .ofExcept _

end

theorem listUsers_reads : listUsers.Asks IsRead :=
  .bind (listKeys_asks (isRead_list _)) fun _ => .pure _

theorem getUser_reads (name : String) : (getUser name).Asks IsRead :=
  .bind (.ofExcept _) fun path => .bind (getValue_asks _ (isRead_get path)) fun _ => .pure _

theorem userPolicies_reads (name : String) : (userPolicies name).Asks IsRead :=
  .bind (getUser_reads name) fun _ => .pure _

theorem listRoles_reads (source : RoleSource) : (listRoles source).Asks IsRead :=
  .bind (listKeys_asks (isRead_list _)) fun _ => .pure _

theorem listPolicies_reads : listPolicies.Asks IsRead :=
  .bind (getValue_asks _ (isRead_get _)) fun _ => .pure _

theorem listSecretMounts_reads : listSecretMounts.Asks IsRead :=
  .bind (getValue_asks _ (isRead_get _)) fun _ => .pure _

theorem listAuthMethods_reads : listAuthMethods.Asks IsRead :=
  .bind (getValue_asks _ (isRead_get _)) fun _ => .pure _

theorem listGroups_reads : listGroups.Asks IsRead :=
  .bind (listKeys_asks (isRead_list _)) fun _ => .pure _

theorem listEntities_reads : listEntities.Asks IsRead :=
  .bind (listKeys_asks (isRead_list _)) fun _ => .pure _

end Vault

namespace Membership

theorem holders_reads (policy : String) (users : List String) :
    (holders policy users).Asks IsRead := by
  induction users with
  | nil => exact .pure _
  | cons user rest ih =>
    exact .bind (userPolicies_reads user) fun _ => .bind ih fun _ => .pure _

theorem loggedPage_asks {P : Request → Prop} {ρ α : Type} (cursor : String) (kind : Kind)
    {fetch : Option String → Action (Paging.Batch ρ)} (hfetch : ∀ m, (fetch m).Asks P)
    (map : ρ → α) : (loggedPage cursor kind fetch map).Asks P := by
  unfold loggedPage Paging.listPage
  split
  · exact .throw _
  · exact .bind (.bind (hfetch _) fun _ => .bind (.note _ _) fun _ => .pure _) fun _ => .pure _

theorem grants_reads (pageSize : Nat) (policy : Resource) (cursor : String) :
    (grants pageSize policy cursor).Asks IsRead :=
  loggedPage_asks _ _ (fun _ => .bind listUsers_reads fun _ => .bind (.ofExcept _) fun _ =>
    .bind (holders_reads _ _) fun _ => .pure _) _

end Membership

namespace Connector

theorem getUsers_reads (names : List String) : (getUsers names).Asks IsRead := by
  induction names with
  | nil => exact .pure _
  | cons name rest ih => exact .bind (getUser_reads name) fun _ => .bind ih fun _ => .pure _

theorem wholeListing_asks {P : Request → Prop} {ρ : Type} (kind : Kind)
    {records : Action (List ρ)} (hrecords : records.Asks P)
    (project : ρ → Option ResourceId → Resource) (parent : Option ResourceId) (cursor : String) :
    (wholeListing kind records project parent cursor).Asks P :=
  Membership.loggedPage_asks _ _ (fun _ => .bind hrecords fun _ => .pure _) _

theorem listUserPage_reads (pageSize : Nat) (parent : Option ResourceId) (cursor : String) :
    (listUserPage pageSize parent cursor).Asks IsRead := by
  refine Membership.loggedPage_asks _ _ (fun marker => ?_) _
  exact .bind listUsers_reads fun _ => .bind (.ofExcept _) fun _ =>
    .bind (getUsers_reads _) fun _ => .pure _

theorem listRolePage_reads (parent : Option ResourceId) (cursor : String) :
    (listRolePage parent cursor).Asks IsRead := by
  refine Membership.loggedPage_asks _ _ (fun marker => ?_) _
  refine .bind (.ofExcept _) fun phase => ?_
  exact .bind (listRoles_reads _) fun _ => .pure _

theorem listKind_reads (c : Connector) (kind : Kind) (parent : Option ResourceId)
    (cursor : String) : (c.listKind kind parent cursor).Asks IsRead := by
  cases kind with
  | user => exact listUserPage_reads _ parent cursor
  | role => exact listRolePage_reads parent cursor
  | policy => exact wholeListing_asks _ listPolicies_reads _ _ _
  | secret => exact wholeListing_asks _ listSecretMounts_reads _ _ _
  | authMethod => exact wholeListing_asks _ listAuthMethods_reads _ _ _
  | group => exact wholeListing_asks _ listGroups_reads _ _ _
  | entity => exact wholeListing_asks _ listEntities_reads _ _ _

theorem grantsOf_reads (c : Connector) (kind : Kind) (r : Resource) (cursor : String) :
    (c.grantsOf kind r cursor).Asks IsRead := by
  cases kind with
  | policy => exact Membership.grants_reads _ r cursor
  | _ => exact .pure _

theorem validate_reads : validate.Asks IsRead := by
  have hlift : Action.Asks IsRead (ExceptT.lift lookupSelf.run) := by
    rw [Action.Asks, Action.run_lift]
    exact Obeys.bind (getValue_asks _ (isRead_get _)) fun _ _ => trivial
  refine .bind hlift fun accepted => ?_
  cases accepted with
  | ok value => exact .note _ _
  | error e => exact .bind (.note _ _) fun _ => .throw e

/-! ## Sessions that read -/

theorem mounted_asks {α : Type} {P : Request → Prop} (c : Connector) {t : Action α}
    (ht : t.Asks P) : Session.Asks P (c.mounted t) :=
  .bind (.bootstrap c.backends) fun _ => .ofTask ht

theorem drainFrom_asks {α : Type} {P : Request → Prop} {page : String → Session (Paging.Page α)}
    (hpage : ∀ cursor, Session.Asks P (page cursor)) (fuel : Nat) (cursor : String) :
    Session.Asks P (drainFrom page fuel cursor) := by
  induction fuel generalizing cursor with
  | zero => exact .throw _
  | succ fuel ih =>
    refine .bind (hpage cursor) fun p => ?_
    split
    · exact .pure _
    · split
      · exact .bind (.throw _) fun _ => .bind (ih _) fun _ => .pure _
      · exact .bind (ih _) fun _ => .pure _

theorem drain_asks {α : Type} {P : Request → Prop} {page : String → Session (Paging.Page α)}
    (hpage : ∀ cursor, Session.Asks P (page cursor)) : Session.Asks P (drain page) :=
  drainFrom_asks hpage _ _

theorem holdings_reads (c : Connector) (kind : Kind) (resources : List Resource) :
    Session.Asks IsRead (c.holdings kind resources) := by
  induction resources with
  | nil => exact .pure _
  | cons r rest ih =>
    have hoffered := drain_asks fun _ =>
      mounted_asks (P := IsRead) c (.pure (entitlementsOf kind r))
    have hheld := drain_asks fun cursor => mounted_asks c (grantsOf_reads c kind r cursor)
    exact .bind hoffered fun _ => .bind hheld fun _ => .bind ih fun _ => .pure _

theorem syncKinds_reads (c : Connector) (kinds : List Kind) (report : Report) :
    Session.Asks IsRead (c.syncKinds kinds report) := by
  induction kinds generalizing report with
  | nil => exact .pure _
  | cons kind rest ih =>
    have hlisted := drain_asks fun cursor => mounted_asks c (listKind_reads c kind none cursor)
    have hkind : Session.Asks IsRead (c.syncKind kind report) :=
      .bind hlisted fun _ => .bind (.ofTask (.note _ _)) fun _ =>
        .bind (holdings_reads c kind _) fun _ => .pure _
    exact .bind hkind fun _ => ih _

/-! ## Changes -/

end Connector

namespace Membership

variable {σ : Type}

/-- That an exchange replaces the list of a user, and directly follows the successful reading of
the list that it revises. These two are all exchanges there are. -/
def ReplacesWhatWasRead (change : Change) (user policy : String) (own : List Exchange)
    (x : Exchange) : Prop :=
  ∃ path r a next, Endpoint.user user "" = .ok path ∧ r.isSuccess = true ∧
    r.read UserAnswer.ofJson = .ok a ∧ revised change user policy a.data.policyList = .ok next ∧
    x.request = .post (path ++ "/policies") (policiesBody next) ∧
    own = [⟨.get path, .ok r⟩, x]

theorem isSuccess_of_read {α : Type} {decode : Json → Except Mismatch α} {r : Response} {a : α}
    (h : r.read decode = .ok a) : r.isSuccess = true := by
  cases hsuccess : r.isSuccess with
  | true => rfl
  | false => simp [Response.read, Response.requireSuccess, hsuccess] at h

/-- Where policies were read, there was a success with a readable body. -/
theorem exists_of_policiesIn {answer : Answer} {policies : List String}
    (h : policiesIn answer = .ok policies) :
    ∃ r a, answer = .ok r ∧ r.isSuccess = true ∧ r.read UserAnswer.ofJson = .ok a ∧
      a.data.policyList = policies := by
  cases answer with
  | error e => cases h
  | ok r =>
    cases hr : r.read UserAnswer.ofJson with
    | error e => simp [policiesIn, Except.bind, Except.map, hr] at h
    | ok a =>
      simp only [policiesIn, Except.bind, Except.map, hr, Except.ok.injEq] at h
      exact ⟨r, a, rfl, isSuccess_of_read hr, hr, h⟩

/-- Whatever is answered, what a change writes is the revision of what it read. -/
theorem underLock_replaces (change : Change) (user policy : String) (g : Gateway σ) (s : σ) :
    ∀ x ∈ (underLock change user policy).run.trace g s, x.request.method = .post →
      ReplacesWhatWasRead change user policy ((underLock change user policy).run.trace g s) x := by
  intro x hx hpost
  cases hpath : Endpoint.user user "" with
  | error e =>
    rw [run_underLock_of_error change policy hpath, trace_note, trace_done] at hx
    cases hx
  | ok path =>
    rw [run_underLock change policy hpath, trace_note, trace_ask] at hx ⊢
    generalize g.answer (.get path) _ = answered at hx ⊢
    obtain ⟨answer, s'⟩ := answered
    cases hread : policiesIn answer with
    | error e =>
      simp only [hread, trace_done, List.mem_singleton] at hx
      rw [hx] at hpost
      cases hpost
    | ok policies =>
      obtain ⟨r, a, rfl, hsuccess, ha, rfl⟩ := exists_of_policiesIn hread
      simp only [hread, afterRead] at hx ⊢
      cases hnext : revised change user policy a.data.policyList with
      | error e =>
        simp only [hnext, trace_note, trace_done, List.mem_singleton] at hx
        rw [hx] at hpost
        cases hpost
      | ok next =>
        have htrace : (replacing path next (madeLine change user policy)).trace g s' =
            [⟨.post (path ++ "/policies") (policiesBody next),
              (g.answer (.post (path ++ "/policies") (policiesBody next)) s').1⟩] := by
          simp only [replacing, trace_ask]
          congr 1
          cases accepted _ <;> rfl
        simp only [hnext, htrace, List.mem_cons, List.not_mem_nil, or_false] at hx ⊢
        rcases hx with rfl | rfl
        · cases hpost
        · exact ⟨path, r, a, next, hpath, hsuccess, ha, hnext, rfl, rfl⟩

end Membership

namespace Connector

variable {σ : Type}

/-- The change of a user's policies that a kind makes for a principal and an entitlement: only
policies are changed through their kind, only users change, and only policies are held. -/
def change? (change : Change) (kind : Kind) (principal entitlement : ResourceId) :
    Option (Change × String × String) :=
  if kind = .policy ∧ principal.kind = .user ∧ entitlement.kind = .policy then
    some (change, principal.name, entitlement.name)
  else none

theorem change?_eq_some_iff {change : Change} {kind : Kind} {principal entitlement : ResourceId}
    {made : Change × String × String} :
    change? change kind principal entitlement = some made ↔
      (kind = .policy ∧ principal.kind = .user ∧ entitlement.kind = .policy) ∧
        (change, principal.name, entitlement.name) = made := by
  rw [change?, Option.ite_none_right_eq_some, Option.some_inj]

/-- A change through a kind. -/
def changeOn (change : Change) (kind : Kind) (principal entitlement : ResourceId) : Action Unit :=
  match kind with
  | .policy => Membership.perform change principal entitlement
  | _ => throw (.unsupported kind change)

theorem grantOn_eq_changeOn (kind : Kind) (principal : ResourceId) (e : Entitlement) :
    grantOn kind principal e = changeOn .grant kind principal e.resource := by
  cases kind with
  | policy => exact Membership.grant_eq_perform principal e
  | _ => rfl

theorem revokeOn_eq_changeOn (kind : Kind) (g : Grant) :
    revokeOn kind g = changeOn .revoke kind g.principal g.entitlement := by
  cases kind with
  | policy => exact Membership.revoke_eq_perform g
  | _ => rfl

/-- The fault of a change that is not of a policy for a user, through its kind. -/
def refusal (change : Change) (kind : Kind) (principal entitlement : ResourceId) : Fault :=
  if kind ≠ .policy then .unsupported kind change
  else if principal.kind ≠ .user then .principalKind principal.kind
  else .unsupported entitlement.kind change

/-- Such a change is refused before it asks anything. -/
theorem changeOn_refuses (change : Change) (kind : Kind) {principal entitlement : ResourceId}
    (h : ¬(kind = .policy ∧ principal.kind = .user ∧ entitlement.kind = .policy)) :
    (changeOn change kind principal entitlement).run.Obeys (fun _ => False)
      (· = .error (refusal change kind principal entitlement)) := by
  by_cases hkind : kind = .policy
  · subst hkind
    by_cases hprincipal : principal.kind = .user
    · have hentitlement : entitlement.kind ≠ .policy := fun he => h ⟨rfl, hprincipal, he⟩
      simp [changeOn, refusal, Membership.perform, Membership.parties, hprincipal, hentitlement]
    · simp [changeOn, refusal, Membership.perform, Membership.parties, hprincipal]
  · have hthrow : changeOn change kind principal entitlement =
        throw (.unsupported kind change) := by
      cases kind with
      | policy => exact absurd rfl hkind
      | _ => rfl
    rw [hthrow, refusal, if_pos hkind]
    rfl

/-- What a change through a kind writes is the revision of what it read, if it is a change at
all. -/
theorem changeOn_replaces (change : Change) (kind : Kind) (principal entitlement : ResourceId)
    (g : Gateway σ) (s : σ) :
    ∀ x ∈ (changeOn change kind principal entitlement).run.trace g s, x.request.method = .post →
      ∃ user policy, change? change kind principal entitlement = some (change, user, policy) ∧
        Membership.ReplacesWhatWasRead change user policy
          ((changeOn change kind principal entitlement).run.trace g s) x := by
  intro x hx hpost
  by_cases hmade : kind = .policy ∧ principal.kind = .user ∧ entitlement.kind = .policy
  · refine ⟨principal.name, entitlement.name, change?_eq_some_iff.mpr ⟨hmade, rfl⟩, ?_⟩
    obtain ⟨rfl, hprincipal, hentitlement⟩ := hmade
    have hrun := Membership.run_perform change hprincipal hentitlement
    simp only [changeOn, hrun] at hx ⊢
    exact Membership.underLock_replaces _ _ _ g s x hx hpost
  · exact ((changeOn_refuses change kind hmade).trace g s x hx).elim

/-! ## Operations -/

/-- What a caller may ask of a connector. Changes may also go through a kind of the caller's
choice. -/
inductive Operation where
  | bootstrap
  | validate
  | list (kind : Kind) (parent : Option ResourceId) (cursor : String)
  | entitlements (kind : Kind) (r : Resource)
  | grants (kind : Kind) (r : Resource) (cursor : String)
  | sync
  | grant (principal : ResourceId) (e : Entitlement)
  | revoke (g : Grant)
  | grantVia (kind : Kind) (principal : ResourceId) (e : Entitlement)
  | revokeVia (kind : Kind) (g : Grant)

namespace Operation

/-- A session whose result is not used. -/
def ignore {α : Type} (x : Session α) : Session Unit := x >>= fun _ => return ()

/-- What an operation does. -/
def session (c : Connector) : Operation → Session Unit
  | bootstrap => ignore c.bootstrap
  | validate => Session.ofTask Connector.validate
  | list kind parent cursor => ignore (c.list kind parent cursor)
  | entitlements kind r => ignore (c.entitlements kind r)
  | grants kind r cursor => ignore (c.grants kind r cursor)
  | sync => ignore c.fullSync
  | grant principal e => c.grant principal e
  | revoke g => c.revoke g
  | grantVia kind principal e => c.grantVia kind principal e
  | revokeVia kind g => c.revokeVia kind g

/-- The change of a user's policies that an operation stands for. -/
def change? : Operation → Option (Change × String × String)
  | grant principal e => Connector.change? .grant e.resource.kind principal e.resource
  | revoke g => Connector.change? .revoke g.entitlement.kind g.principal g.entitlement
  | grantVia kind principal e => Connector.change? .grant kind principal e.resource
  | revokeVia kind g => Connector.change? .revoke kind g.principal g.entitlement
  | _ => none

end Operation

/-- Operations in order with the exchanges of each, in one session. -/
def journal (c : Connector) (g : Gateway σ) :
    List Operation → Memory → σ → List (Operation × List Exchange)
  | [], _, _ => []
  | op :: ops, memory, s =>
    let p := (op.session c).run memory
    (op, Program.trace g p s) :: journal c g ops (p.run g s).1.2 (p.run g s).2

/-- That exchanges of an operation are those of a mounting pass, which writes to no user, followed
by the operation's own, of which none writes except the one that makes its change. -/
def Confined (c : Connector) (op : Operation) (exchanges : List Exchange) : Prop :=
  ∃ pass own, exchanges = pass ++ own ∧ IsPass c.backends pass ∧
    (∀ x ∈ pass, Endpoint.isUnderUsers x.request.path = false) ∧
    ∀ x ∈ own, x.request.method = .post →
      ∃ change user policy, op.change? = some (change, user, policy) ∧
        Membership.ReplacesWhatWasRead change user policy own x

theorem IsPass.not_isUnderUsers {backends : List Backend} {pass : List Exchange}
    (h : IsPass backends pass) : ∀ x ∈ pass, Endpoint.isUnderUsers x.request.path = false := by
  intro x hx
  obtain ⟨b, -, hb⟩ := List.mem_map.mp (h.mem_enabling x hx)
  rw [← hb]
  exact Endpoint.isUnderUsers_backend b

/-- A mounting pass and then a session that reads only. -/
theorem confined_of_asks {α : Type} (c : Connector) (op : Operation)
    {f : List Backend.Outcome → Session α} (hf : ∀ outcomes, Session.Asks IsRead (f outcomes))
    (memory : Memory) (g : Gateway σ) (s : σ) :
    c.Confined op (Program.trace g ((Session.bootstrap c.backends >>= f).run memory) s) := by
  obtain ⟨pass, own, heq, hpass, hown⟩ := trace_bootstrap_bind c.backends f memory g s
  refine ⟨pass, own, heq, hpass, hpass.not_isUnderUsers, fun x hx hpost => ?_⟩
  rcases hown with rfl | ⟨outcomes, s', rfl⟩
  · cases hx
  · exact absurd hpost ((hf outcomes outcomes).trace g s' x hx)

/-- What a session writes that mounts the backends and makes a change, after its pass, is the
revision of what it read. -/
theorem mounted_change_replaces (c : Connector) (change : Change) (kind : Kind)
    (principal entitlement : ResourceId) (memory : Memory) (g : Gateway σ) (s : σ) :
    ∃ pass own, Program.trace g
        ((c.mounted (changeOn change kind principal entitlement)).run memory) s = pass ++ own ∧
      IsPass c.backends pass ∧
      ∀ x ∈ own, x.request.method = .post →
        ∃ user policy, change? change kind principal entitlement = some (change, user, policy) ∧
          Membership.ReplacesWhatWasRead change user policy own x := by
  obtain ⟨pass, own, heq, hpass, hown⟩ := trace_bootstrap_bind c.backends
    (fun _ => Session.ofTask (changeOn change kind principal entitlement)) memory g s
  refine ⟨pass, own, heq, hpass, fun x hx hpost => ?_⟩
  rcases hown with rfl | ⟨outcomes, s', rfl⟩
  · cases hx
  · have htrace (s : σ) : Program.trace g ((Session.ofTask
        (changeOn change kind principal entitlement)).run ⟨some outcomes⟩) s =
        (changeOn change kind principal entitlement).run.trace g s := by
      rw [Session.run_ofTask, trace_bind, trace_done, List.append_nil]
    rw [htrace] at hx ⊢
    exact changeOn_replaces change kind principal entitlement g s' x hx hpost

/-- A mounting pass and then a change. -/
theorem confined_of_change (c : Connector) (op : Operation) (change : Change) (kind : Kind)
    (principal entitlement : ResourceId)
    (hop : op.change? = Connector.change? change kind principal entitlement)
    (memory : Memory) (g : Gateway σ) (s : σ) :
    c.Confined op (Program.trace g
      ((c.mounted (changeOn change kind principal entitlement)).run memory) s) := by
  obtain ⟨pass, own, heq, hpass, hown⟩ :=
    c.mounted_change_replaces change kind principal entitlement memory g s
  refine ⟨pass, own, heq, hpass, hpass.not_isUnderUsers, fun x hx hpost => ?_⟩
  obtain ⟨user, policy, hchange, hreplaces⟩ := hown x hx hpost
  exact ⟨change, user, policy, hop.trans hchange, hreplaces⟩

/-- A mounting pass and then an action that reads only. -/
theorem confined_of_reads {α : Type} (c : Connector) (op : Operation) {t : Action α}
    (ht : t.Asks IsRead) (memory : Memory) (g : Gateway σ) (s : σ) :
    c.Confined op (Program.trace g ((Operation.ignore (c.mounted t)).run memory) s) := by
  have hassoc : Operation.ignore (c.mounted t) = Session.bootstrap c.backends >>= fun _ =>
      Operation.ignore (Session.ofTask t) := bind_assoc _ _ _
  rw [hassoc]
  exact c.confined_of_asks op (fun _ => .bind (.ofTask ht) fun _ => .pure _) memory g s

theorem confined_sync (c : Connector) (memory : Memory) (g : Gateway σ) (s : σ) :
    c.Confined .sync (Program.trace g ((Operation.ignore c.fullSync).run memory) s) := by
  have hassoc : Operation.ignore c.fullSync = Session.bootstrap c.backends >>= fun _ =>
      Operation.ignore (c.syncKinds Kind.all .empty >>= fun report =>
        Session.ofTask (Action.note .info "Sync pass complete") >>= fun _ => return report) :=
    bind_assoc _ _ _
  rw [hassoc]
  refine c.confined_of_asks .sync (fun _ => .bind ?_ fun _ => .pure _) memory g s
  exact .bind (syncKinds_reads c _ _) fun _ => .bind (.ofTask (.note _ _)) fun _ => .pure _

/-- Whatever is answered, an operation writes no more than its pass and its change. -/
theorem confined_session (c : Connector) (op : Operation) (memory : Memory) (g : Gateway σ)
    (s : σ) : c.Confined op (Program.trace g ((op.session c).run memory) s) := by
  cases op with
  | bootstrap => exact c.confined_of_asks _ (fun _ => .pure _) memory g s
  | validate =>
    refine ⟨[], _, rfl, .nil _, fun x hx => (List.not_mem_nil hx).elim, fun x hx hpost => ?_⟩
    have hreads : Obeys IsRead (fun _ => True) ((Session.ofTask validate).run memory) :=
      Obeys.bind validate_reads fun _ _ => trivial
    exact absurd hpost (hreads.trace g s x hx)
  | list kind parent cursor => exact c.confined_of_reads _ (listKind_reads c _ _ _) memory g s
  | entitlements kind r => exact c.confined_of_reads _ (.pure _) memory g s
  | grants kind r cursor => exact c.confined_of_reads _ (grantsOf_reads c _ _ _) memory g s
  | sync => exact c.confined_sync memory g s
  | grant principal e =>
    have hchange := c.confined_of_change (.grant principal e) .grant e.resource.kind principal
      e.resource rfl memory g s
    rwa [← grantOn_eq_changeOn] at hchange
  | revoke held =>
    have hchange := c.confined_of_change (.revoke held) .revoke held.entitlement.kind
      held.principal held.entitlement rfl memory g s
    rwa [← revokeOn_eq_changeOn] at hchange
  | grantVia kind principal e =>
    have hchange := c.confined_of_change (.grantVia kind principal e) .grant kind principal
      e.resource rfl memory g s
    rwa [← grantOn_eq_changeOn] at hchange
  | revokeVia kind held =>
    have hchange := c.confined_of_change (.revokeVia kind held) .revoke kind held.principal
      held.entitlement rfl memory g s
    rwa [← revokeOn_eq_changeOn] at hchange

/-- Writes are confined. Whatever a vault answers to operations in any order, the exchanges of each
operation are confined. -/
theorem writes_confined (c : Connector) (g : Gateway σ) (ops : List Operation) (memory : Memory)
    (s : σ) :
    (c.journal g ops memory s).map (·.1) = ops ∧
      ∀ entry ∈ c.journal g ops memory s, c.Confined entry.1 entry.2 := by
  induction ops generalizing memory s with
  | nil => exact ⟨rfl, by simp [journal]⟩
  | cons op ops ih =>
    obtain ⟨hops, hconfined⟩ := ih ((op.session c).run memory |>.run g s).1.2
      ((op.session c).run memory |>.run g s).2
    refine ⟨?_, fun entry hentry => ?_⟩
    · rw [journal, List.map_cons, hops]
    · rcases List.mem_cons.mp hentry with rfl | hentry
      · exact confined_session c op memory g s
      · exact hconfined entry hentry

/-- A user who has two policies is granted a third, and then a group of that name is. After the pass
the first grant reads the user and writes all three; the second one neither reads nor writes. -/
theorem writes_confined_of_grants :
    let c : Connector := ⟨Backend.defaults, 10⟩
    let path := "v1/auth/userpass/users/ada"
    let ada : Response :=
      ⟨200, .obj [("data", .obj [("token_policies", .arr [.str "dev", .str "ops"])])]⟩
    let qa := Entitlement.describe ⟨.policy, "qa"⟩ "qa" assigned
    let ops : List Operation := [.grant ⟨.user, "ada"⟩ qa, .grant ⟨.group, "ada"⟩ qa]
    ∃ pass, IsPass c.backends pass ∧
      (c.journal (Holdings.obligingBut path (.ok ada)) ops .fresh ()).map (·.2) =
        [pass ++ [⟨.get path, .ok ada⟩, ⟨.post (path ++ "/policies") (.obj [("token_policies",
          .arr [.str "dev", .str "ops", .str "qa"])]), .ok ⟨204, .null⟩⟩], []] := by
  intro c path ada qa ops
  let g := Holdings.obligingBut path (.ok ada)
  let exchanges := Program.trace g (((Operation.grant ⟨.user, "ada"⟩ qa).session c).run .fresh) ()
  obtain ⟨pass, own, hsplit, hpass, hmounts, hwrites⟩ :=
    (writes_confined c g ops .fresh ()).2 (_, exchanges) List.mem_cons_self
  change exchanges = pass ++ own at hsplit
  -- The fifth request of the first grant writes to the user, so it is the change that is granted.
  have hfifth : (exchanges[4]?.map fun x => (x.request.method, x.request.path)) =
      some (.post, path ++ "/policies") := by decide +kernel
  obtain ⟨⟨request, answer⟩, hx, hline⟩ := Option.map_eq_some_iff.mp hfifth
  obtain ⟨hmethod, hpath⟩ := Prod.mk.inj hline
  have hmem := List.mem_of_getElem? hx
  have hown : ⟨request, answer⟩ ∈ own := by
    refine (List.mem_append.mp (hsplit ▸ hmem)).resolve_left fun hmounted => ?_
    have hnot := hmounts _ hmounted
    rw [hpath] at hnot
    exact absurd hnot (by decide)
  obtain ⟨change, user, policy, hchange, hreplaces⟩ := hwrites _ hown hmethod
  obtain ⟨-, hmade⟩ := change?_eq_some_iff.mp hchange
  cases hmade
  obtain ⟨path', r, a, next, hpath', -, hread, hnext, hrequest, rfl⟩ := hreplaces
  obtain rfl : path = path' := Except.ok.inj hpath'
  obtain rfl : request = .post (path ++ "/policies") (policiesBody next) := hrequest
  -- What was read and what the write was told are what the gateway answers.
  have hget : ⟨.get path, .ok r⟩ ∈ exchanges := by simp [hsplit]
  have hgot := Holdings.answer_of_mem_trace_obligingBut hget
  obtain rfl : r = ada := Except.ok.inj (hgot.trans (if_pos rfl))
  have hdecoded : Response.read UserAnswer.ofJson ada =
      .ok ⟨⟨some ["dev", "ops"], none, none, none⟩, none⟩ := rfl
  obtain rfl : _ = a := Except.ok.inj (hdecoded.symm.trans hread)
  obtain rfl : ["dev", "ops", "qa"] = next := Except.ok.inj hnext
  have hposted := Holdings.answer_of_mem_trace_obligingBut hmem
  have hother : ¬path ++ "/policies" = path := by decide
  obtain rfl : answer = .ok ⟨204, .null⟩ := hposted.trans (if_neg hother)
  obtain ⟨second, hjournal⟩ :
      ∃ second, (c.journal g ops .fresh ()).map (·.2) = [exchanges, second] := ⟨_, rfl⟩
  have hlengths : ((c.journal g ops .fresh ()).map (·.2)).map List.length = [5, 0] := by
    decide +kernel
  rw [hjournal] at hlengths
  obtain ⟨-, hsecond⟩ := List.cons.inj hlengths
  obtain rfl : second = [] := List.eq_nil_of_length_eq_zero (List.cons.inj hsecond).1
  exact ⟨pass, hpass, by rw [hjournal, hsplit]; rfl⟩

end Connector

end VaultAccess
