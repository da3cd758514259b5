import VaultAccess.Proofs.Connector.Ledger
import VaultAccess.Proofs.Connector.Reports
import VaultAccess.Proofs.Graph.Ids

/-!
# Revoking what was reported

A sync prints ids of grants. The id of any grant that it reports is read back as that grant, and
revoking it takes one occurrence of the policy from the user, who is a holder no longer if it was
the only one.
-/
namespace VaultAccess

open Vault Program Paging

/-! ## One list replaced -/

namespace Vault.Holdings

variable {h : Holdings} {user policy : String}

theorem names_replace (h : Holdings) (user : String) (policies : List String) :
    (h.replace user policies).users.map (·.1) = h.users.map (·.1) := by
  simp [replace, Function.comp_def]

theorem Regular.replace (hh : h.Regular) (user : String) (policies : List String) :
    (h.replace user policies).Regular where
  named := hh.named.replace user policies
  users := by rw [names_replace]; exact hh.users
  mounts := hh.mounts
  authMethods := hh.authMethods
  counted := by simpa [Holdings.replace] using hh.counted

/-- The grants of a policy: one for each user whose list has it. -/
theorem mem_grantsOf {id : ResourceId} {g : Grant} :
    g ∈ h.grantsOf id ↔ ∃ u ∈ h.users, id.name ∈ u.2.data.policyList ∧
      Membership.grantOf id u.1 = g := by
  simp only [grantsOf, holders, List.mem_map, List.mem_filter, decide_eq_true_eq]
  constructor
  · rintro ⟨user, ⟨u, ⟨hu, hheld⟩, rfl⟩, hg⟩
    exact ⟨u, hu, hheld, hg⟩
  · rintro ⟨u, hu, hheld, hg⟩
    exact ⟨u.1, ⟨u, ⟨hu, hheld⟩, rfl⟩, hg⟩

/-- Holders after a list was replaced. -/
theorem holders_replace (h : Holdings) (user policy : String) (policies : List String) :
    holders policy (h.replace user policies).users =
      (h.users.filter fun u =>
        policy ∈ if u.1 = user then policies else u.2.data.policyList).map (·.1) := by
  rw [holders, replace, List.filter_map, List.map_map]
  refine congrArg (List.map _) (List.filter_congr fun u _ => ?_)
  by_cases hsame : u.1 = user <;> simp [hsame]

/-- Where a user loses one occurrence of a policy, the holders stay as they are but for that user,
who is one no longer if there was no other occurrence. -/
theorem holders_replace_erase (hnodup : (h.users.map (·.1)).Nodup) {a : UserAnswer}
    (ha : h.user? user = some a) (hheld : policy ∈ a.data.policyList) :
    holders policy (h.replace user (a.data.policyList.erase policy)).users =
      if a.data.policyList.count policy = 1 then (holders policy h.users).filter (· ≠ user)
      else holders policy h.users := by
  have hown {u : String × UserAnswer} (hu : u ∈ h.users) (hsame : u.1 = user) : u.2 = a := by
    have hread : h.user? u.1 = some u.2 := lookup_eq_some_of_mem hnodup hu
    rw [hsame, ha] at hread
    exact (Option.some.inj hread).symm
  have hcount : policy ∈ a.data.policyList.erase policy ↔ a.data.policyList.count policy ≠ 1 := by
    have hpos := List.count_pos_iff.mpr hheld
    rw [← List.count_pos_iff, List.count_erase_self]
    omega
  rw [holders_replace]
  split
  · next hone =>
    have hgone : policy ∉ a.data.policyList.erase policy := fun hmem => hcount.mp hmem hone
    rw [holders, List.filter_map, List.filter_filter]
    refine congrArg (List.map _) (List.filter_congr fun u _ => ?_)
    by_cases hsame : u.1 = user <;> simp [hsame, hgone]
  · next hmore =>
    have hleft : policy ∈ a.data.policyList.erase policy := hcount.mpr hmore
    rw [holders]
    refine congrArg (List.map _) (List.filter_congr fun u hu => ?_)
    by_cases hsame : u.1 = user
    · simp [hsame, hleft, hown hu hsame, hheld]
    · simp [hsame]

end Vault.Holdings

/-! ## The revocation -/

/-- Holdings in which one list of policies is shorter by the first occurrence of the policy of a
grant, that of the user of the grant. -/
structure Vault.Holdings.Revokes (h : Holdings) (g : Grant) (after : Holdings) : Prop where
  names : after.users.map (·.1) = h.users.map (·.1)
  revised : after.policiesOf g.principal.name =
    (h.policiesOf g.principal.name).erase g.entitlement.name
  others : ∀ name, name ≠ g.principal.name → after.user? name = h.user? name

namespace Connector

open Session

variable {τ : Type} (rest : Gateway τ) {h : Holdings} (t : τ)

/-- A grant that a user has is revoked. -/
theorem on_revoke (hnames : h.WellNamed) {user policy : String} {a : UserAnswer}
    (ha : h.user? user = some a) (hheld : policy ∈ a.data.policyList) :
    (revokeOn .policy (Membership.grantOf ⟨.policy, policy⟩ user)).on (Holdings.gateway rest)
      (h, t) = (.ok (), (h.replace user (a.data.policyList.erase policy), t)) := by
  have hrevised : Membership.revised .revoke user policy a.data.policyList =
      .ok (a.data.policyList.erase policy) := if_pos hheld
  have hrun : (revokeOn .policy (Membership.grantOf ⟨.policy, policy⟩ user)).run =
      (Membership.underLock .revoke user policy).run := Membership.run_perform .revoke rfl rfl
  rw [Action.on, hrun]
  exact Membership.on_underLock_of_revised_ok rest .revoke policy t (hnames.user_ok ha) ha hrevised

/-- A task of a session that remembers its pass. -/
theorem run_ofTask_of_on {σ α : Type} {g : Gateway σ} {task : Action α} {r : Except Fault α}
    {s s' : σ} (h : task.on g s = (r, s')) (memory : Memory) :
    Program.run g ((Session.ofTask task).run memory) s = ((r, memory), s') := by
  rw [Action.on] at h
  rw [run_ofTask, Program.run_bind, h]
  rfl

/-- The users who are told by the grants of a policy. -/
theorem principals_grantsOf (h : Holdings) (policy : ResourceId) :
    (h.grantsOf policy).map Grant.principal =
      (Holdings.holders policy.name h.users).map (ResourceId.mk .user) := by
  rw [Holdings.grantsOf, List.map_map]
  rfl

/-- Who is told by the grants of a policy after an occurrence of it was removed. -/
theorem principals_replace_erase (hnodup : (h.users.map (·.1)).Nodup) {user policy : String}
    {a : UserAnswer} (ha : h.user? user = some a) (hheld : policy ∈ a.data.policyList) :
    ((h.replace user (a.data.policyList.erase policy)).grantsOf ⟨.policy, policy⟩).map
        Grant.principal =
      if a.data.policyList.count policy = 1 then
        ((h.grantsOf ⟨.policy, policy⟩).map Grant.principal).filter (· ≠ ⟨.user, user⟩)
      else (h.grantsOf ⟨.policy, policy⟩).map Grant.principal := by
  rw [principals_grantsOf, principals_grantsOf, Holdings.holders_replace_erase hnodup ha hheld]
  split
  · rw [List.filter_map]
    refine congrArg (List.map _) (List.filter_congr fun name _ => ?_)
    simp
  · rfl

/-- A walk over the grants of a policy. -/
theorem gives_policyGrants (c : Connector) (hh : h.Regular) (r : Resource) :
    Gives (Holdings.gateway rest) (h, t) (drain fun cursor => c.grants .policy r cursor)
      (h.grantsOf r.id) := by
  have hgives : Gives (Holdings.gateway rest) (h, t)
      (drain fun cursor => c.grants .policy r cursor) (held h .policy [r]) :=
    gives_grants c hh .policy r
  rwa [held, List.flatMap_singleton] at hgives

/-- Every reported grant can be revoked by its id. The id of a grant that a sync reports is read
back as the grant. To revoke it succeeds, in the session of the sync or through any connector whose
backends can be enabled, and takes the first occurrence of the policy from the user's list and
nothing from any other. A walk over the grants of the policy then tells of the same users in the
same order, except that the user is gone if the policy had occurred once. -/
theorem reported_grants_revocable (c : Connector) (hh : h.Keyed)
    (hcount : h.users.length ≤ Text.Decimal.wordLimit)
    (hpolicies : ∀ name ∈ h.policies.names, name ≠ "") {memory memory' : Memory}
    {s : Holdings × τ} {report : Report}
    (hsync : Program.run (Holdings.gateway rest) (c.fullSync.run memory) (h, t) =
      ((.ok report, memory'), s)) {g : Grant} (hg : g ∈ report.grants) :
    s.1 = h ∧ Grant.parseId g.id = .ok g ∧ ∃ after, h.Revokes g after ∧
      Program.run (Holdings.gateway rest) ((c.revoke g).run memory') s =
        ((.ok (), memory'), (after, s.2)) ∧
      (∀ c' : Connector, Backend.CanEnable rest c'.backends → ∀ memory t, ∃ outcomes t',
        Program.run (Holdings.gateway rest) ((c'.revoke g).run memory) (h, t) =
          ((.ok (), ⟨some outcomes⟩), (after, t'))) ∧
      ∀ (c' : Connector) (r : Resource) (t : τ), r.id = g.entitlement → ∃ before later,
        Gives (Holdings.gateway rest) (h, t) (drain fun cursor => c'.grants .policy r cursor)
          before ∧
        Gives (Holdings.gateway rest) (after, t) (drain fun cursor => c'.grants .policy r cursor)
          later ∧
        g ∈ before ∧
        later.map Grant.principal =
          if (h.policiesOf g.principal.name).count g.entitlement.name = 1 then
            (before.map Grant.principal).filter (· ≠ g.principal)
          else before.map Grant.principal := by
  have hresult : c.syncResult (Holdings.gateway rest) memory (h, t) = .ok report := by
    rw [syncResult, hsync]
  obtain ⟨⟨rfl, hnamed⟩, outcomes, t', hend⟩ := sync_of_report hh hresult
  rw [hsync] at hend
  cases hend
  rw [Holdings.graph_grants] at hg
  obtain ⟨policy, hpolicy, hmem⟩ := List.mem_flatMap.mp hg
  obtain ⟨u, hu, hheld, rfl⟩ := Holdings.mem_grantsOf.mp hmem
  have ha : h.user? u.1 = some u.2 := lookup_eq_some_of_mem hh.users hu
  have hown : h.policiesOf u.1 = u.2.data.policyList := Holdings.policiesOf_of_some ha
  have hregular : h.Regular := ⟨hnamed, hh.users, hh.mounts, hh.authMethods, hcount⟩
  have hplain : (Membership.grantOf ⟨.policy, policy⟩ u.1).HasPlainId :=
    ⟨hpolicies policy hpolicy, (hnamed u hu).1, show assigned ≠ "" by decide,
      show ':' ∉ assigned.toList by decide⟩
  let after := h.replace u.1 (u.2.data.policyList.erase policy)
  have hrevokes : h.Revokes (Membership.grantOf ⟨.policy, policy⟩ u.1) after := by
    refine ⟨Holdings.names_replace h _ _, ?_, fun name hne => Holdings.user?_replace_of_ne h hne _⟩
    have hsome : (h.user? u.1).isSome := ha ▸ rfl
    exact (Holdings.policiesOf_replace hsome _).trans (congrArg (List.erase · policy) hown.symm)
  refine ⟨rfl, Grant.parseId_id hplain, after, hrevokes, ?_, fun c' henable memory t => ?_,
    fun c' r t hr => ?_⟩
  · rw [revoke, revokeVia, mounted, run_bootstrap_bind_mounted]
    exact run_ofTask_of_on (on_revoke rest t' hnamed ha hheld) _
  · obtain ⟨outcomes, t', -, -, hrun, -⟩ := run_bootstrap_bind henable
      (fun _ => Session.ofTask (revokeOn .policy (Membership.grantOf ⟨.policy, policy⟩ u.1)))
      memory h t
    exact ⟨outcomes, t', hrun.trans (run_ofTask_of_on (on_revoke rest t' hnamed ha hheld) _)⟩
  · have hbefore := gives_policyGrants rest t c' hregular r
    have hlater := gives_policyGrants rest t c'
      (hregular.replace u.1 (u.2.data.policyList.erase policy)) r
    rw [hr] at hbefore hlater
    refine ⟨_, _, hbefore, hlater, hmem, ?_⟩
    rw [show h.policiesOf (Membership.grantOf ⟨.policy, policy⟩ u.1).principal.name = _ from hown]
    exact principals_replace_erase hh.users ha hheld

/-- A small vault with a user whose name has a colon, and who has a policy twice. -/
def hoard : Holdings :=
  { Holdings.small with
    users := [("a:b", ⟨⟨some ["dev", "ops", "dev"], none, none, none⟩, none⟩),
      ("bob", ⟨⟨some ["dev"], none, none, none⟩, none⟩)] }

/-- A policy that a user has twice is reported once. Its revocation leaves the second occurrence,
so the same users hold it. -/
theorem reported_grants_revocable_of_hoard :
    let g := Membership.grantOf ⟨.policy, "dev"⟩ "a:b"
    let gateway := Holdings.gateway Holdings.obliging
    let c : Connector := ⟨Backend.defaults, 10⟩
    hoard.Keyed ∧ hoard.users.length ≤ Text.Decimal.wordLimit ∧
      (∀ name ∈ hoard.policies.names, name ≠ "") ∧
      ∃ report memory' s,
        Program.run gateway (c.fullSync.run .fresh) (hoard, ()) = ((.ok report, memory'), s) ∧
        g ∈ report.grants ∧ g.id = "policy:dev:assigned:user:a%3Ab" ∧
        Grant.parseId "policy:dev:assigned:user:a%3Ab" = .ok g ∧
        ∃ after, hoard.Revokes g after ∧ after.policiesOf "a:b" = ["ops", "dev"] ∧
          Program.run gateway ((c.revoke g).run memory') s = ((.ok (), memory'), (after, s.2)) ∧
          ∃ later, Gives gateway (after, ())
            (drain fun cursor => c.grants .policy (Projection.ofPolicy ⟨"dev", none⟩ none) cursor)
              later ∧
            later.map Grant.principal = [⟨.user, "a:b"⟩, ⟨.user, "bob"⟩] := by
  intro g gateway c
  have hh : hoard.Keyed := ⟨by decide, by decide, by decide⟩
  have hcount : hoard.users.length ≤ Text.Decimal.wordLimit := by decide
  have hpolicies : ∀ name ∈ hoard.policies.names, name ≠ "" := by decide
  have hsome : (c.syncResult gateway .fresh (hoard, ())).toOption.isSome := by decide +kernel
  obtain ⟨report, hreport⟩ := Option.isSome_iff_exists.mp hsome
  obtain ⟨⟨hgraph, hnamed⟩, outcomes, t', hrun⟩ := sync_of_report hh (ok_of_toOption hreport)
  have hg : g ∈ report.grants := by
    rw [hgraph]
    decide
  obtain ⟨-, hparse, after, hrevokes, hrevoke, -, hwalk⟩ :=
    reported_grants_revocable Holdings.obliging () c hh hcount hpolicies hrun hg
  have hid : g.id = "policy:dev:assigned:user:a%3Ab" := by decide +kernel
  let dev := Projection.ofPolicy ⟨"dev", none⟩ none
  obtain ⟨before, later, hbefore, hlater, -, hprincipals⟩ := hwalk c dev () rfl
  have hregular : hoard.Regular := ⟨hnamed, hh.users, hh.mounts, hh.authMethods, hcount⟩
  have hsame : before = hoard.grantsOf dev.id := by
    have hgives := gives_policyGrants Holdings.obliging () c hregular dev []
    rw [hbefore []] at hgives
    cases hgives
    rfl
  refine ⟨hh, hcount, hpolicies, report, _, _, hrun, hg, hid, hid ▸ hparse, after, hrevokes, ?_,
    hrevoke, later, hlater, ?_⟩
  · have hlist : (hoard.policiesOf "a:b").erase "dev" = ["ops", "dev"] := by decide
    exact hrevokes.revised.trans hlist
  · rw [hprincipals, hsame]
    decide

end Connector

end VaultAccess
