import VaultAccess.Connector.Basic
import VaultAccess.Proofs.Connector.Mounting

/-!
# The membership ledger

What grants and revocations through a connector make of the policies of a vault's users, call by
call and over whole runs.
-/
namespace VaultAccess

open Vault Program

variable {τ : Type}

/-! ## One change at a vault -/

namespace Membership

section changes

variable (rest : Gateway τ) (change : Change) {user path : String} (policy : String)
  {h : Holdings} (t : τ) {a : UserAnswer}

/-- A change of a user that does not exist fails and changes nothing. -/
theorem on_underLock_of_none (hnone : h.user? user = none) :
    ∃ f, (underLock change user policy).on (Holdings.gateway rest) (h, t) =
      (.error f, (h, t)) := by
  rw [Action.on]
  cases hpath : Endpoint.user user "" with
  | error e =>
    rw [run_underLock_of_error change policy hpath]
    exact ⟨e, rfl⟩
  | ok path =>
    rw [run_underLock change policy hpath, run_note, run_ask, Holdings.gateway_log,
      Endpoint.user_eq_userPath hpath, Holdings.gateway_get_user, hnone]
    exact ⟨_, rfl⟩

/-- A change of a user that exists, once the list was read. -/
theorem run_underLock_of_some (hpath : Endpoint.user user "" = .ok path)
    (ha : h.user? user = some a) :
    (underLock change user policy).run.run (Holdings.gateway rest) (h, t) =
        (afterRead change user policy path a.data.policyList).run (Holdings.gateway rest) (h, t) ∧
      (underLock change user policy).run.trace (Holdings.gateway rest) (h, t) =
        ⟨.get path, .ok ⟨200, a.toJson⟩⟩ ::
          (afterRead change user policy path a.data.policyList).trace (Holdings.gateway rest)
            (h, t) := by
  have hanswer := Holdings.gateway_get_user rest h t user
  rw [← Endpoint.user_eq_userPath hpath, ha] at hanswer
  rw [run_underLock change policy hpath, run_note, run_ask, trace_note, trace_ask,
    Holdings.gateway_log, hanswer]
  simp only [policiesIn_toJson, and_self]

/-- A change that is no revision fails after the reading. -/
theorem underLock_of_revised_error (hpath : Endpoint.user user "" = .ok path)
    (ha : h.user? user = some a) {f : Fault}
    (hrevised : revised change user policy a.data.policyList = .error f) :
    (underLock change user policy).on (Holdings.gateway rest) (h, t) = (.error f, (h, t)) ∧
      ∀ x ∈ (underLock change user policy).run.trace (Holdings.gateway rest) (h, t),
        x.request = .get path := by
  obtain ⟨hrun, htrace⟩ := run_underLock_of_some rest change policy t hpath ha
  rw [Action.on, hrun, htrace]
  simp [afterRead, hrevised]

/-- A revision is put in place. -/
theorem on_underLock_of_revised_ok (hpath : Endpoint.user user "" = .ok path)
    (ha : h.user? user = some a) {next : List String}
    (hrevised : revised change user policy a.data.policyList = .ok next) :
    (underLock change user policy).on (Holdings.gateway rest) (h, t) =
      (.ok (), (h.replace user next, t)) := by
  obtain ⟨hrun, -⟩ := run_underLock_of_some rest change policy t hpath ha
  have hanswer := Holdings.gateway_post_user rest h t user next
  rw [← Endpoint.user_eq_userPath hpath, ha] at hanswer
  rw [Action.on, hrun]
  simp only [afterRead, hrevised, replacing, run_ask, hanswer]
  rfl

end changes

end Membership

/-! ## Calls in order -/

namespace Connector

/-- A grant or a revocation of a policy. -/
structure Entry where
  change : Change
  user : String
  policy : Entitlement
  isPolicy : policy.resource.kind = .policy

namespace Entry

def name (e : Entry) : String := e.policy.resource.name

/-- The call of a connector. -/
def call (c : Connector) (e : Entry) : Session Unit :=
  match e.change with
  | .grant => c.grant ⟨.user, e.user⟩ e.policy
  | .revoke => c.revoke ⟨e.policy.resource, e.policy.slug, ⟨.user, e.user⟩⟩

theorem call_eq (c : Connector) (e : Entry) :
    e.call c = c.mounted (Membership.perform e.change ⟨.user, e.user⟩ e.policy.resource) := by
  obtain ⟨change, user, policy, hpolicy⟩ := e
  cases change with
  | grant =>
    simp only [call, grant, grantVia, hpolicy, grantOn, Membership.grant_eq_perform]
  | revoke =>
    simp only [call, revoke, revokeVia, hpolicy, revokeOn, Membership.revoke_eq_perform]

end Entry

/-- One call with what was held before and after it, its result and its exchanges. -/
structure Posting where
  entry : Entry
  before : Holdings
  result : Except Fault Unit
  exchanges : List Exchange
  after : Holdings

namespace Posting

/-- Whether a posting is a change of a policy for a user that was made. -/
def records (p : Posting) (change : Change) (user policy : String) : Bool :=
  p.result.isOk && decide (p.entry.change = change ∧ p.entry.user = user ∧ p.entry.name = policy)

/-- What a call makes of the users: a grant appends its policy, a revocation takes the first
occurrence away and is refused, with nothing but a mounting pass written, where there is none. A
call for a user that does not exist fails and changes nothing, and no call changes another user. -/
structure Lawful (c : Connector) (p : Posting) : Prop where
  granted : p.entry.change = .grant → (p.before.user? p.entry.user).isSome →
    p.result = .ok () ∧
      p.after.policiesOf p.entry.user = p.before.policiesOf p.entry.user ++ [p.entry.name]
  revoked : p.entry.change = .revoke → (p.before.user? p.entry.user).isSome →
    p.entry.name ∈ p.before.policiesOf p.entry.user →
    p.result = .ok () ∧
      p.after.policiesOf p.entry.user = (p.before.policiesOf p.entry.user).erase p.entry.name
  refused : p.entry.change = .revoke → (p.before.user? p.entry.user).isSome →
    p.entry.name ∉ p.before.policiesOf p.entry.user →
    p.result = .error (.notAssigned p.entry.user p.entry.name) ∧ p.after = p.before ∧
      ∀ x ∈ p.exchanges, x.request.method = .post → x.request ∈ c.backends.map Backend.enabling
  missing : p.before.user? p.entry.user = none → (∃ f, p.result = .error f) ∧ p.after = p.before
  others : ∀ user, user ≠ p.entry.user → p.after.user? user = p.before.user? user

end Posting

/-- The posting of a call at a vault, and the memory and the state that it leaves. -/
def post (c : Connector) (g : Gateway (Holdings × τ)) (e : Entry) (memory : Memory)
    (s : Holdings × τ) : Posting × Memory × (Holdings × τ) :=
  let p := (e.call c).run memory
  let left := p.run g s
  (⟨e, s.1, left.1.1, p.trace g s, left.2.1⟩, left.1.2, left.2)

/-- The postings of calls in order in one session, and what is held in the end. -/
def ledger (c : Connector) (g : Gateway (Holdings × τ)) :
    List Entry → Memory → Holdings × τ → List Posting × Holdings
  | [], _, s => ([], s.1)
  | e :: entries, memory, s =>
    let (p, memory, s) := c.post g e memory s
    let (postings, final) := ledger c g entries memory s
    (p :: postings, final)

/-- Every posting starts from what the one before it left. -/
def Continues : Holdings → List Posting → Holdings → Prop
  | h, [], final => final = h
  | h, p :: postings, final => p.before = h ∧ Continues p.after postings final

/-- A call at a vault is a mounting pass followed by the change under the user's lock. -/
theorem post_eq (c : Connector) {rest : Gateway τ} (henable : Backend.CanEnable rest c.backends)
    (e : Entry) (memory : Memory) (h : Holdings) (t : τ) :
    ∃ memory' t' pass, IsPass c.backends pass ∧
      c.post (Holdings.gateway rest) e memory (h, t) =
        (⟨e, h, ((Membership.underLock e.change e.user e.name).on (Holdings.gateway rest)
              (h, t')).1,
            pass ++ (Membership.underLock e.change e.user e.name).run.trace
              (Holdings.gateway rest) (h, t'),
            ((Membership.underLock e.change e.user e.name).on (Holdings.gateway rest)
              (h, t')).2.1⟩, memory',
          ((Membership.underLock e.change e.user e.name).on (Holdings.gateway rest)
            (h, t')).2) := by
  have hrun : (Membership.perform e.change ⟨.user, e.user⟩ e.policy.resource).run =
      (Membership.underLock e.change e.user e.name).run :=
    Membership.run_perform e.change rfl e.isPolicy
  obtain ⟨outcomes, t', pass, hpass, hresult, htrace⟩ := run_bootstrap_bind henable
    (fun _ => Session.ofTask (Membership.perform e.change ⟨.user, e.user⟩ e.policy.resource))
    memory h t
  refine ⟨⟨some outcomes⟩, t', pass, hpass, ?_⟩
  simp only [post, Entry.call_eq, mounted, hresult, htrace, Session.run_ofTask, hrun,
    Program.run_bind, trace_bind, run_done, trace_done, List.append_nil, Action.on]

/-- A posting that changed nothing is lawful if its refusal is. -/
theorem Posting.Lawful.of_unchanged (c : Connector) {e : Entry} {h : Holdings} {f : Fault}
    {exchanges : List Exchange}
    (hrefused : (h.user? e.user).isSome → e.change = .revoke ∧
      e.name ∉ h.policiesOf e.user ∧ f = .notAssigned e.user e.name ∧
      ∀ x ∈ exchanges, x.request.method = .post → x.request ∈ c.backends.map Backend.enabling) :
    Posting.Lawful c ⟨e, h, .error f, exchanges, h⟩ where
  granted hchange hsome := by
    have hrevoke := (hrefused hsome).1
    rw [hchange] at hrevoke
    cases hrevoke
  revoked _ hsome hmem := absurd hmem (hrefused hsome).2.1
  refused _ hsome _ := by
    obtain ⟨-, -, hf, hwrites⟩ := hrefused hsome
    exact ⟨congrArg Except.error hf, rfl, hwrites⟩
  missing _ := ⟨⟨f, rfl⟩, rfl⟩
  others _ _ := rfl

/-- A posting that put a revision in place is lawful. -/
theorem Posting.Lawful.of_revised (c : Connector) {e : Entry} {h : Holdings} {a : UserAnswer}
    (ha : h.user? e.user = some a) {next : List String}
    (hrevised : Membership.revised e.change e.user e.name a.data.policyList = .ok next)
    (exchanges : List Exchange) :
    Posting.Lawful c ⟨e, h, .ok (), exchanges, h.replace e.user next⟩ := by
  have hsome : (h.user? e.user).isSome := Option.isSome_iff_exists.mpr ⟨a, ha⟩
  have hbefore := Holdings.policiesOf_of_some ha
  have hafter := Holdings.policiesOf_replace hsome next
  constructor
  · intro hchange _
    dsimp only at hchange ⊢
    rw [hchange] at hrevised
    cases hrevised
    exact ⟨rfl, hafter.trans (by rw [hbefore])⟩
  · intro hchange _ hmem
    dsimp only at hchange hmem ⊢
    rw [hbefore] at hmem
    rw [hchange, Membership.revised, if_pos hmem] at hrevised
    cases hrevised
    exact ⟨rfl, hafter.trans (by rw [hbefore])⟩
  · intro hchange _ hmem
    dsimp only at hchange hmem
    rw [hbefore] at hmem
    rw [hchange, Membership.revised, if_neg hmem] at hrevised
    cases hrevised
  · intro hnone
    dsimp only at hnone
    rw [ha] at hnone
    cases hnone
  · exact fun user hne => Holdings.user?_replace_of_ne h hne next

/-- Only a revocation of a policy that is not there is no revision. -/
theorem revised_eq_error {change : Change} {user policy : String} {policies : List String}
    {f : Fault} (h : Membership.revised change user policy policies = .error f) :
    change = .revoke ∧ policy ∉ policies ∧ f = .notAssigned user policy := by
  cases change with
  | grant => cases h
  | revoke =>
    by_cases hmem : policy ∈ policies
    · rw [Membership.revised, if_pos hmem] at h
      cases h
    · rw [Membership.revised, if_neg hmem] at h
      cases h
      exact ⟨rfl, hmem, rfl⟩

/-- Every call is lawful, and leaves users with names that the connector takes. -/
theorem post_lawful (c : Connector) {rest : Gateway τ}
    (henable : Backend.CanEnable rest c.backends) (e : Entry) (memory : Memory) {h : Holdings}
    (hnames : h.WellNamed) (t : τ) :
    (c.post (Holdings.gateway rest) e memory (h, t)).1.Lawful c ∧
      (c.post (Holdings.gateway rest) e memory (h, t)).2.2.1.WellNamed := by
  obtain ⟨memory', t', pass, hpass, hpost⟩ := c.post_eq henable e memory h t
  rw [hpost]
  cases ha : h.user? e.user with
  | none =>
    obtain ⟨f, hon⟩ := Membership.on_underLock_of_none rest e.change e.name t' ha
    rw [hon]
    refine ⟨.of_unchanged c fun hsome => ?_, hnames⟩
    rw [ha] at hsome
    cases hsome
  | some a =>
    have hpath := hnames.user_ok ha
    cases hrevised : Membership.revised e.change e.user e.name a.data.policyList with
    | error f =>
      obtain ⟨hon, hreads⟩ :=
        Membership.underLock_of_revised_error rest e.change e.name t' hpath ha hrevised
      rw [hon]
      refine ⟨.of_unchanged c fun _ => ?_, hnames⟩
      obtain ⟨hchange, hmem, hf⟩ := revised_eq_error hrevised
      rw [Holdings.policiesOf_of_some ha]
      refine ⟨hchange, hmem, hf, fun x hx hwrite => ?_⟩
      rcases List.mem_append.mp hx with hx | hx
      · exact hpass.mem_enabling x hx
      · rw [hreads x hx] at hwrite
        cases hwrite
    | ok next =>
      rw [Membership.on_underLock_of_revised_ok rest e.change e.name t' hpath ha hrevised]
      exact ⟨.of_revised c ha hrevised _, hnames.replace e.user next⟩

/-- One lawful posting keeps the books. -/
theorem Posting.Lawful.count {c : Connector} {p : Posting} (h : p.Lawful c) (user policy : String) :
    (p.after.policiesOf user).count policy + [p].countP (·.records .revoke user policy) =
      (p.before.policiesOf user).count policy + [p].countP (·.records .grant user policy) := by
  by_cases huser : user = p.entry.user
  · subst huser
    cases hsome : p.before.user? p.entry.user with
    | none =>
      obtain ⟨⟨f, hf⟩, hafter⟩ := h.missing hsome
      simp [records, Except.isOk, Except.toBool, hf, hafter]
    | some a =>
      have hsome' : (p.before.user? p.entry.user).isSome := Option.isSome_iff_exists.mpr ⟨a, hsome⟩
      cases hchange : p.entry.change with
      | grant =>
        obtain ⟨hresult, hafter⟩ := h.granted hchange hsome'
        by_cases hpolicy : p.entry.name = policy <;>
          simp [records, Except.isOk, Except.toBool, hresult, hafter, hchange, hpolicy]
      | revoke =>
        by_cases hmem : p.entry.name ∈ p.before.policiesOf p.entry.user
        · obtain ⟨hresult, hafter⟩ := h.revoked hchange hsome' hmem
          by_cases hpolicy : p.entry.name = policy
          · subst hpolicy
            have hpos := List.count_pos_iff.mpr hmem
            simp [records, Except.isOk, Except.toBool, hresult, hafter, hchange,
              List.count_erase_self]
            omega
          · simp [records, Except.isOk, Except.toBool, hresult, hafter, hchange, hpolicy,
              List.count_erase_of_ne (Ne.symm hpolicy)]
        · obtain ⟨hresult, hafter, -⟩ := h.refused hchange hsome' hmem
          simp [records, Except.isOk, Except.toBool, hresult, hafter]
  · have hafter := h.others user huser
    simp [records, Ne.symm huser, Holdings.policiesOf, hafter]

/-- Lawful postings that continue one another keep the books. -/
theorem count_of_continues {c : Connector} {h final : Holdings} {postings : List Posting}
    (hcontinues : Continues h postings final) (hlawful : ∀ p ∈ postings, p.Lawful c)
    (user policy : String) :
    (final.policiesOf user).count policy + postings.countP (·.records .revoke user policy) =
      (h.policiesOf user).count policy + postings.countP (·.records .grant user policy) := by
  induction postings generalizing h with
  | nil =>
    cases hcontinues
    rfl
  | cons p postings ih =>
    obtain ⟨rfl, hcontinues⟩ := hcontinues
    have hrest := ih hcontinues fun q hq => hlawful q (List.mem_cons_of_mem p hq)
    have hone := (hlawful p List.mem_cons_self).count user policy
    rw [← List.singleton_append, List.countP_append, List.countP_append]
    omega

/-- The membership ledger. In every run of grants and revocations through a connector whose
backends can be enabled, each call is lawful where the calls before it left off, and the
occurrences of a policy at a user are those at first with one more for every grant that was made
and one less for every revocation that was made. -/
theorem membership_ledger (c : Connector) {rest : Gateway τ}
    (henable : Backend.CanEnable rest c.backends) (entries : List Entry) (memory : Memory)
    {h : Holdings} (hnames : h.WellNamed) (t : τ) :
    let (postings, final) := c.ledger (Holdings.gateway rest) entries memory (h, t)
    postings.map (·.entry) = entries ∧ Continues h postings final ∧
      (∀ p ∈ postings, p.Lawful c) ∧
      ∀ user policy,
        (final.policiesOf user).count policy + postings.countP (·.records .revoke user policy) =
          (h.policiesOf user).count policy + postings.countP (·.records .grant user policy) := by
  have hrun : ((c.ledger (Holdings.gateway rest) entries memory (h, t)).1.map (·.entry) =
      entries) ∧
      Continues h (c.ledger (Holdings.gateway rest) entries memory (h, t)).1
        (c.ledger (Holdings.gateway rest) entries memory (h, t)).2 ∧
      ∀ p ∈ (c.ledger (Holdings.gateway rest) entries memory (h, t)).1, p.Lawful c := by
    induction entries generalizing memory h t with
    | nil => exact ⟨rfl, rfl, fun p hp => (List.not_mem_nil hp).elim⟩
    | cons e entries ih =>
      obtain ⟨hlawful, hnames'⟩ := c.post_lawful henable e memory hnames t
      obtain ⟨hentries, hcontinues, hall⟩ :=
        ih (c.post (Holdings.gateway rest) e memory (h, t)).2.1 hnames'
          (c.post (Holdings.gateway rest) e memory (h, t)).2.2.2
      refine ⟨?_, ⟨rfl, hcontinues⟩, fun p hp => ?_⟩
      · exact congrArg (List.cons e) hentries
      · rcases List.mem_cons.mp hp with rfl | hp
        · exact hlawful
        · exact hall p hp
  obtain ⟨hentries, hcontinues, hlawful⟩ := hrun
  exact ⟨hentries, hcontinues, hlawful, count_of_continues hcontinues hlawful⟩

/-- A grant, its revocation and a revocation that is refused. -/
theorem membership_ledger_of_small :
    let c : Connector := ⟨Backend.defaults, 2⟩
    let policy := Entitlement.describe ⟨.policy, "qa"⟩ "qa" assigned
    let entries : List Entry := [⟨.grant, "ada", policy, rfl⟩, ⟨.revoke, "ada", policy, rfl⟩,
      ⟨.revoke, "ada", policy, rfl⟩]
    Backend.CanEnable Holdings.obliging c.backends ∧ Holdings.small.WellNamed ∧
      let (postings, final) := c.ledger (Holdings.gateway Holdings.obliging) entries .fresh
        (Holdings.small, ())
      postings.map (·.entry) = entries ∧ Continues Holdings.small postings final ∧
        ∀ p ∈ postings, p.Lawful c := by
  intro c policy entries
  have henable := Backend.canEnable_obliging c.backends
  have hnames := Holdings.small_wellNamed
  obtain ⟨hentries, hcontinues, hlawful, -⟩ := membership_ledger c henable entries .fresh hnames ()
  exact ⟨henable, hnames, hentries, hcontinues, hlawful⟩

end Connector

end VaultAccess
