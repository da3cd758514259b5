import VaultAccess.Graph.Projection
import VaultAccess.Proofs.Connector.Writes
import VaultAccess.Proofs.Graph.Listed

/-!
# Slugs and changes

An id names a resource and a slug, and every policy lists one slug. The slug of an id is read and
not looked at again: whether a change is made is decided by the kinds of the principal and the
resource. So an id with a slug that no policy lists changes the same list as the id that is listed.
-/
namespace VaultAccess.Connector

open Vault Program

/-! ## What the kinds decide -/

theorem grant_eq_mounted (c : Connector) (principal : ResourceId) (e : Entitlement) :
    c.grant principal e = c.mounted (changeOn .grant e.resource.kind principal e.resource) := by
  rw [grant, grantVia, grantOn_eq_changeOn]

theorem revoke_eq_mounted (c : Connector) (g : Grant) :
    c.revoke g = c.mounted (changeOn .revoke g.entitlement.kind g.principal g.entitlement) := by
  rw [revoke, revokeVia, revokeOn_eq_changeOn]

/-- That the kinds of a principal and a resource decide what a session changes. Whatever is
answered, it writes below the users only to replace the list of the principal, and only if that is
a user and the resource is a policy. Otherwise it fails, with the fault of its mounting pass or as a
change that is refused, and a vault holds what it held. -/
structure DecidedByKinds (c : Connector) (change : Change) (principal resource : ResourceId)
    (x : Session Unit) : Prop where
  writes : ∀ {σ : Type} (g : Gateway σ) (memory : Memory) (s : σ),
    ∀ y ∈ Program.trace g (x.run memory) s, y.request.method = .post →
      Endpoint.isUnderUsers y.request.path = true →
        principal.kind = .user ∧ resource.kind = .policy ∧
          y.request.path = Endpoint.userPath principal.name ++ "/policies"
  fails : ¬(principal.kind = .user ∧ resource.kind = .policy) →
    ∀ {σ : Type} (g : Gateway σ) (memory : Memory) (s : σ),
      (∃ pass e, Backend.Pass c.backends pass (.error e) ∧
        (Program.run g (x.run memory) s).1.1 = .error e) ∨
      (Program.run g (x.run memory) s).1.1 =
        .error (refusal change resource.kind principal resource)
  keeps : ¬(principal.kind = .user ∧ resource.kind = .policy) →
    ∀ {τ : Type} (rest : Gateway τ) (memory : Memory) (h : Holdings) (t : τ),
      (Program.run (Holdings.gateway rest) (x.run memory) (h, t)).2.1 = h

/-- So it is with every change through the kind of its resource. -/
theorem decidedByKinds (c : Connector) (change : Change) (principal resource : ResourceId) :
    c.DecidedByKinds change principal resource
      (c.mounted (changeOn change resource.kind principal resource)) where
  writes g memory s y hy hpost hunder := by
    obtain ⟨pass, own, heq, hpass, hown⟩ :=
      c.mounted_change_replaces change resource.kind principal resource memory g s
    rw [heq] at hy
    rcases List.mem_append.mp hy with hy | hy
    · rw [hpass.not_isUnderUsers y hy] at hunder
      cases hunder
    · obtain ⟨user, policy, hchange, path, _, _, _, hpath, -, -, -, hrequest, -⟩ := hown y hy hpost
      obtain ⟨⟨hresource, hprincipal, -⟩, hmade⟩ := change?_eq_some_iff.mp hchange
      cases hmade
      refine ⟨hprincipal, hresource, ?_⟩
      rw [hrequest, ← Endpoint.user_eq_userPath hpath]
      rfl
  fails h σ g memory s := by
    have hrefuses := changeOn_refuses change resource.kind fun hmade => h hmade.2
    rcases run_bootstrap_bind_cases c.backends
        (fun _ => Session.ofTask (changeOn change resource.kind principal resource)) memory g s with
      ⟨pass, e, hpass, -, hresult⟩ | ⟨pass, outcomes, s', -, -, hresult⟩
    · exact .inl ⟨pass, e, hpass, hresult⟩
    · refine .inr ((congrArg Prod.fst hresult).trans ?_)
      rw [Session.run_ofTask, Program.run_bind]
      exact hrefuses.run g s'
  keeps h τ rest memory holdings t := by
    have hrefuses := changeOn_refuses change resource.kind fun hmade => h hmade.2
    have hobeys : ((c.mounted (changeOn change resource.kind principal resource)).run memory).Obeys
        (fun r => ∃ b, r = Backend.enabling b) fun _ => True := by
      refine obeys_bootstrap_bind (fun b => ⟨b, rfl⟩) (fun _ => trivial) (fun outcomes => ?_) memory
      rw [Session.run_ofTask]
      exact (hrefuses.imp (fun _ hr => hr.elim) fun _ hr => hr).bind fun _ _ => trivial
    exact Backend.holdings_of_enabling hobeys rest holdings t

/-! ## Slugs that no policy lists -/

/-- The slug of an entitlement plays no part in a grant. -/
theorem grant_congr (c : Connector) (principal : ResourceId) {e other : Entitlement}
    (h : e.resource = other.resource) : c.grant principal e = c.grant principal other := by
  rw [grant_eq_mounted, grant_eq_mounted, h]

/-- The slug of a grant plays no part in its revocation. -/
theorem revoke_congr (c : Connector) {g other : Grant}
    (hentitlement : g.entitlement = other.entitlement)
    (hprincipal : g.principal = other.principal) : c.revoke g = c.revoke other := by
  rw [revoke_eq_mounted, revoke_eq_mounted, hentitlement, hprincipal]

/-- Kinds decide changes, and slugs do not. For every id of an entitlement that can be read and
every principal, and for every id of a grant that can be read, the kinds of the principal and the
named resource decide what a grant or a revocation changes. If the resource is that of a policy, the
call is the same session as the call with the entitlement that is listed for the policy, whose id
can be read as well. -/
theorem kinds_decide_changes (c : Connector) :
    (∀ (text : String) (e : Entitlement) (principal : ResourceId), Entitlement.ofId text = .ok e →
      c.DecidedByKinds .grant principal e.resource (c.grant principal e) ∧
      ∀ (r : PolicyRecord) (parent : Option ResourceId),
        (Projection.ofPolicy r parent).id = e.resource →
          ∃ listed, entitlementsOf .policy (Projection.ofPolicy r parent) = .single [listed] ∧
            Entitlement.ofId listed.id = .ok listed ∧
            c.grant principal e = c.grant principal listed) ∧
    ∀ (text : String) (g : Grant), Grant.parseId text = .ok g →
      c.DecidedByKinds .revoke g.principal g.entitlement (c.revoke g) ∧
      ∀ (r : PolicyRecord) (parent : Option ResourceId),
        (Projection.ofPolicy r parent).id = g.entitlement →
          ∃ listed, entitlementsOf .policy (Projection.ofPolicy r parent) = .single [listed] ∧
            let held : Grant := ⟨listed.resource, listed.slug, g.principal⟩
            Grant.parseId held.id = .ok held ∧ c.revoke g = c.revoke held := by
  refine ⟨fun text e principal hread => ⟨?_, fun r parent hr => ?_⟩,
    fun text g hread => ⟨?_, fun r parent hr => ?_⟩⟩
  · rw [grant_eq_mounted]
    exact c.decidedByKinds .grant principal e.resource
  · have hname : (Projection.ofPolicy r parent).id.name ≠ "" := by
      rw [hr]
      exact (Entitlement.plain_of_ofId hread).1.1
    exact ⟨_, rfl, Entitlement.ofId_id_ofResource_iff.mpr ⟨hname, rfl⟩,
      c.grant_congr principal hr.symm⟩
  · rw [revoke_eq_mounted]
    exact c.decidedByKinds .revoke g.principal g.entitlement
  · obtain ⟨hentitlement, hprincipal, -, -⟩ := Grant.hasPlainId_of_parseId hread
    rw [← hr] at hentitlement
    have hplain : Grant.HasPlainId ⟨(Projection.ofPolicy r parent).id, assigned, g.principal⟩ :=
      ⟨hentitlement, hprincipal, show assigned ≠ "" by decide,
        show ':' ∉ assigned.toList by decide⟩
    exact ⟨_, rfl, Grant.parseId_id hplain, c.revoke_congr hr.symm rfl⟩

/-- An entitlement of a policy that no policy lists, and a grant of one. -/
def owning : Entitlement := .describe ⟨.policy, "qa"⟩ "qa" "owner"

def owned : Grant := ⟨⟨.policy, "dev"⟩, "owner", ⟨.user, "ada"⟩⟩

theorem ofId_owning : Entitlement.ofId "policy:qa:owner" = .ok owning :=
  ok_of_toOption (by decide +kernel)

theorem parseId_owned : Grant.parseId "policy:dev:owner:user:ada" = .ok owned :=
  ok_of_toOption (by decide +kernel)

/-- A grant of a slug that is not listed is the grant that is listed, and so is a revocation. A
grant of a role fails, and the vault holds what it held. -/
theorem kinds_decide_changes_of_owner :
    let c : Connector := ⟨Backend.defaults, 1⟩
    let gateway := Holdings.gateway Holdings.obliging
    let ada : ResourceId := ⟨.user, "ada"⟩
    (Entitlement.ofId "policy:qa:owner" = .ok owning ∧ ∃ listed,
      entitlementsOf .policy (Projection.ofPolicy ⟨"qa", none⟩ none) = .single [listed] ∧
      c.grant ada owning = c.grant ada listed) ∧
    (Grant.parseId "policy:dev:owner:user:ada" = .ok owned ∧
      c.revoke owned = c.revoke ⟨⟨.policy, "dev"⟩, assigned, ada⟩) ∧
    ∃ e, Entitlement.ofId "role:ci:assigned" = .ok e ∧
      ¬(ada.kind = .user ∧ e.resource.kind = .policy) ∧
      (∃ f, (Program.run gateway ((c.grant ada e).run .fresh) (Holdings.small, ())).1.1 =
        .error f) ∧
      (Program.run gateway ((c.grant ada e).run .fresh) (Holdings.small, ())).2.1 =
        Holdings.small := by
  intro c gateway ada
  obtain ⟨hgrants, hrevocations⟩ := kinds_decide_changes c
  have hrole : Entitlement.ofId "role:ci:assigned" =
      .ok (.describe ⟨.role, "ci"⟩ "ci" assigned) := ok_of_toOption (by decide +kernel)
  have hother : ¬(ada.kind = .user ∧ Kind.role = .policy) := by decide
  obtain ⟨-, hgranting⟩ := hgrants _ _ ada ofId_owning
  obtain ⟨listed, hlisted, -, hgrant⟩ := hgranting ⟨"qa", none⟩ none rfl
  obtain ⟨-, hrevoking⟩ := hrevocations _ _ parseId_owned
  obtain ⟨listed', hlisted', -, hrevoke⟩ := hrevoking ⟨"dev", none⟩ none rfl
  cases hlisted'
  obtain ⟨hdecided, -⟩ := hgrants _ _ ada hrole
  refine ⟨⟨ofId_owning, listed, hlisted, hgrant⟩, ⟨parseId_owned, hrevoke⟩,
    ⟨_, hrole, hother, ?_, hdecided.keeps hother _ _ _ _⟩⟩
  rcases hdecided.fails hother gateway .fresh (Holdings.small, ()) with
    ⟨-, e, -, hresult⟩ | hresult
  · exact ⟨e, hresult⟩
  · exact ⟨_, hresult⟩

/-- Slugs that are not listed change lists. No policy lists the slug of these ids, and still the
grant and the revocation succeed, each with a write at the path of the user's policies that changes
the list. -/
theorem unlisted_slugs_change_lists :
    let c : Connector := ⟨Backend.defaults, 1⟩
    let gateway := Holdings.gateway Holdings.obliging
    let start := (Holdings.small, ())
    let path := Endpoint.userPath "ada" ++ "/policies"
    let granting := (c.grant ⟨.user, "ada"⟩ owning).run .fresh
    let revoking := (c.revoke owned).run .fresh
    Holdings.small.policiesOf "ada" = ["dev", "ops"] ∧
    (Entitlement.ofId "policy:qa:owner" = .ok owning ∧
      (∀ r parent, owning ∉ (entitlementsOf .policy (Projection.ofPolicy r parent)).items) ∧
      (∃ x ∈ Program.trace gateway granting start,
        x.request.method = .post ∧ x.request.path = path) ∧
      (Program.run gateway granting start).1.1 = .ok () ∧
      (Program.run gateway granting start).2.1.policiesOf "ada" = ["dev", "ops", "qa"]) ∧
    (Grant.parseId "policy:dev:owner:user:ada" = .ok owned ∧ owned.slug ≠ assigned ∧
      (∃ x ∈ Program.trace gateway revoking start,
        x.request.method = .post ∧ x.request.path = path) ∧
      (Program.run gateway revoking start).1.1 = .ok () ∧
      (Program.run gateway revoking start).2.1.policiesOf "ada" = ["ops"]) := by
  intro c gateway start path granting revoking
  have hunlisted : ∀ r parent,
      owning ∉ (entitlementsOf .policy (Projection.ofPolicy r parent)).items := by
    intro r parent hmem
    have hslug : owning.slug = assigned := congrArg Entitlement.slug (List.mem_singleton.mp hmem)
    exact absurd hslug (by decide)
  have hgranted : (Program.run gateway granting start).1.1 = .ok () :=
    ok_of_toOption (by decide +kernel)
  have hrevoked : (Program.run gateway revoking start).1.1 = .ok () :=
    ok_of_toOption (by decide +kernel)
  refine ⟨by decide, ⟨ofId_owning, hunlisted, ?_, hgranted, ?_⟩,
    ⟨parseId_owned, by decide, ?_, hrevoked, ?_⟩⟩
  all_goals decide +kernel

end VaultAccess.Connector
