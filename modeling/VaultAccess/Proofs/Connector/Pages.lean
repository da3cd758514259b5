import VaultAccess.Connector.Basic
import VaultAccess.Proofs.Paging.Walk
import VaultAccess.Proofs.Vault.Reading

/-!
# Pages at a vault

What one paging step gives at a vault, from the bookmark of its marker: a window of the users or of
the holders of a policy, the roles of one source, or a listing in one piece.
-/
namespace VaultAccess

open Vault Program Paging Text

variable {τ : Type} (rest : Gateway τ) {h : Holdings} {t : τ}

/-- The users who hold a policy, in the order in which they are listed. -/
def Vault.Holdings.holders (policy : String) (users : List (String × UserAnswer)) : List String :=
  (users.filter fun u => policy ∈ u.2.data.policyList).map (·.1)

/-- The grant of a policy to a user. -/
def Membership.grantOf (policy : ResourceId) (user : String) : Grant :=
  ⟨policy, assigned, ⟨.user, user⟩⟩

/-- A user as a resource. -/
def Projection.ofListed (u : String × UserAnswer) : Resource := ofUser (u.2.record u.1) none

/-- A step gives the page of the batch that is fetched at the marker of its frame. -/
theorem Membership.on_loggedPage_of_open {ρ α : Type} {kind : Kind} {text : String}
    {base : Cursor} {fetch : Option String → Action (Batch ρ)} (map : ρ → α)
    {marker : Option String} (batch : Batch ρ)
    (hopen : openCursor text kind = .ok (base.push ⟨kind, marker.getD ""⟩))
    (hmarker : marker ≠ some "") (hnext : batch.next ≠ some "")
    (hfetch : (fetch marker).on (Holdings.gateway rest) (h, t) = (.ok batch, (h, t))) :
    (loggedPage text kind fetch map).on (Holdings.gateway rest) (h, t) =
      (.ok ⟨batch.records.map map, base.bookmarkOn kind batch.next⟩, (h, t)) := by
  have hlogged : (do
      let batch ← fetch marker
      Action.note .debug "fetched page"
      return batch : Action (Batch ρ)).on (Holdings.gateway rest) (h, t) =
        (.ok batch, (h, t)) := by
    rw [Action.on_bind_of_ok _ hfetch]
    rfl
  rw [loggedPage, listPage_of_open hopen hmarker, Action.on_bind_of_ok _ hlogged, Action.on_pure,
    turn_push base kind _ map hnext]

/-- A step of a walk of one kind. -/
theorem Membership.on_loggedPage {ρ α : Type} (kind : Kind)
    {fetch : Option String → Action (Batch ρ)} (map : ρ → α) {marker : Option String}
    (batch : Batch ρ) (hmarker : marker ≠ some "") (hnext : batch.next ≠ some "")
    (hfetch : (fetch marker).on (Holdings.gateway rest) (h, t) = (.ok batch, (h, t))) :
    (loggedPage (bookmark kind marker) kind fetch map).on (Holdings.gateway rest) (h, t) =
      (.ok ⟨batch.records.map map, bookmark kind batch.next⟩, (h, t)) := by
  have hopen : openCursor (bookmark kind marker) kind =
      .ok (Cursor.empty.push ⟨kind, marker.getD ""⟩) := openCursor_bookmark kind marker
  rw [bookmark_eq kind batch.next]
  exact on_loggedPage_of_open rest map batch hopen hmarker hnext hfetch

namespace Connector

/-- A listing that comes in one piece is one page. -/
theorem on_wholeListing {ρ : Type} (kind : Kind) {records : Action (List ρ)} {found : List ρ}
    (project : ρ → Option ResourceId → Resource)
    (hrecords : records.on (Holdings.gateway rest) (h, t) = (.ok found, (h, t))) :
    (wholeListing kind records project none "").on (Holdings.gateway rest) (h, t) =
      (.ok (.single (found.map (project · none))), (h, t)) := by
  have hfetch : (do return Batch.whole (← records) : Action (Batch ρ)).on (Holdings.gateway rest)
      (h, t) = (.ok (.whole found), (h, t)) := by
    rw [Action.on_bind_of_ok _ hrecords, Action.on_pure]
  have hmarker : none ≠ some "" := nofun
  have hnext : (Batch.whole found).next ≠ some "" := by simp [Batch.whole]
  exact Membership.on_loggedPage rest kind (project · none) (.whole found) hmarker hnext hfetch

/-- What is done with a window of the user listing. -/
theorem on_userWindow {α : Type} {size : Nat} {marker : Option String}
    {batch : Batch (String × UserAnswer)} (hwindow : window h.users marker size = .ok batch)
    (f : Batch String → Action α) :
    (do
      let users ← listUsers
      let window ← Action.ofExcept (window users marker size)
      f window : Action α).on (Holdings.gateway rest) (h, t) =
        (f ⟨batch.records.map (·.1), batch.next⟩).on (Holdings.gateway rest) (h, t) := by
  have hnames := window_map (·.1) hwindow
  rw [Action.on_bind_of_ok _ (on_listUsers rest h t), hnames,
    Action.on_bind_of_ok _ (Action.on_ofExcept _ _ _)]

/-! ## Roles -/

theorem rolePhase_start : rolePhase none = .ok (.approle, offsetMarker 1) := rfl

theorem rolePhase_second : rolePhase (offsetMarker 1) = .ok (.token, none) := by
  have hindex := index_offsetMarker "phase" (show 1 < Decimal.wordLimit by decide)
  rw [rolePhase, phaseIndex, hindex]
  rfl

/-- A page of roles holds those of one source. -/
theorem on_listRolePage {marker next : Option String} {source : RoleSource}
    (hmarker : marker ≠ some "") (hnext : next ≠ some "")
    (hphase : rolePhase marker = .ok (source, next)) :
    (listRolePage none (bookmark .role marker)).on (Holdings.gateway rest) (h, t) =
      (.ok ⟨(h.roles source).map (Projection.ofRole · none), bookmark .role next⟩, (h, t)) := by
  refine Membership.on_loggedPage rest .role (Projection.ofRole · none) ⟨h.roles source, next⟩
    hmarker hnext ?_
  rw [hphase, Action.on_bind_of_ok _ (Action.on_ofExcept _ _ _),
    Action.on_bind_of_ok _ (on_listRoles rest h t source), Action.on_pure]

/-! ## Users -/

/-- Users of the vault are read one by one. -/
theorem on_getUsers (hnames : h.WellNamed) (hnodup : (h.users.map (·.1)).Nodup)
    {users : List (String × UserAnswer)} (husers : ∀ u ∈ users, u ∈ h.users) :
    (getUsers (users.map (·.1))).on (Holdings.gateway rest) (h, t) =
      (.ok (users.map fun u => u.2.record u.1), (h, t)) := by
  induction users with
  | nil => rfl
  | cons u users ih =>
    have hmem : u ∈ h.users := husers u List.mem_cons_self
    have huser : h.user? u.1 = some u.2 := lookup_eq_some_of_mem hnodup hmem
    have hread := on_getUser rest h t (hnames u hmem).user_ok huser
    have hothers := ih fun v hv => husers v (List.mem_cons_of_mem _ hv)
    rw [List.map_cons, getUsers, Action.on_bind_of_ok _ hread, Action.on_bind_of_ok _ hothers,
      Action.on_pure, List.map_cons]

/-- A page of users is a window of them. -/
theorem on_listUserPage (hnames : h.WellNamed) (hnodup : (h.users.map (·.1)).Nodup) {size : Nat}
    {marker : Option String} {batch : Batch (String × UserAnswer)} (hmarker : marker ≠ some "")
    (hwindow : window h.users marker size = .ok batch) :
    (listUserPage size none (bookmark .user marker)).on (Holdings.gateway rest) (h, t) =
      (.ok ⟨batch.records.map Projection.ofListed, bookmark .user batch.next⟩, (h, t)) := by
  have hnext := window_next_ne_empty hwindow
  have husers := on_getUsers rest (t := t) hnames hnodup (mem_of_mem_window hwindow)
  have hpage : (listUserPage size none (bookmark .user marker)).on (Holdings.gateway rest) (h, t) =
      (.ok ⟨(batch.records.map fun u => u.2.record u.1).map (Projection.ofUser · none),
        bookmark .user batch.next⟩, (h, t)) := by
    refine Membership.on_loggedPage rest .user (Projection.ofUser · none) ⟨_, batch.next⟩
      hmarker hnext ?_
    rw [on_userWindow rest hwindow, Action.on_bind_of_ok _ husers, Action.on_pure]
  rw [hpage, List.map_map]
  rfl

/-! ## Holders -/

/-- The holders among users of the vault are found by reading each. -/
theorem on_holders (hnames : h.WellNamed) (hnodup : (h.users.map (·.1)).Nodup) (policy : String)
    {users : List (String × UserAnswer)} (husers : ∀ u ∈ users, u ∈ h.users) :
    (Membership.holders policy (users.map (·.1))).on (Holdings.gateway rest) (h, t) =
      (.ok (Holdings.holders policy users), (h, t)) := by
  induction users with
  | nil => rfl
  | cons u users ih =>
    have hmem : u ∈ h.users := husers u List.mem_cons_self
    have huser : h.user? u.1 = some u.2 := lookup_eq_some_of_mem hnodup hmem
    have hread := on_userPolicies rest h t (hnames u hmem).user_ok huser
    have hothers := ih fun v hv => husers v (List.mem_cons_of_mem _ hv)
    rw [List.map_cons, Membership.holders, Action.on_bind_of_ok _ hread,
      Action.on_bind_of_ok _ hothers, Action.on_pure]
    by_cases hheld : policy ∈ u.2.data.policyList
    · simp [Holdings.holders, hheld]
    · simp [Holdings.holders, hheld]

/-- A page of grants is about the holders in a window of the users, whatever frames are below. -/
theorem on_grants_of_open (hnames : h.WellNamed) (hnodup : (h.users.map (·.1)).Nodup)
    {size : Nat} (policy : Resource) {text : String} {base : Cursor} {marker : Option String}
    {batch : Batch (String × UserAnswer)}
    (hopen : openCursor text .user = .ok (base.push ⟨.user, marker.getD ""⟩))
    (hmarker : marker ≠ some "") (hwindow : window h.users marker size = .ok batch) :
    (Membership.grants size policy text).on (Holdings.gateway rest) (h, t) =
      (.ok ⟨(Holdings.holders policy.id.name batch.records).map (Membership.grantOf policy.id),
        base.bookmarkOn .user batch.next⟩, (h, t)) := by
  have hnext := window_next_ne_empty hwindow
  have hfound := on_holders rest (t := t) hnames hnodup policy.id.name (mem_of_mem_window hwindow)
  refine Membership.on_loggedPage_of_open rest (Membership.grantOf policy.id)
    ⟨Holdings.holders policy.id.name batch.records, batch.next⟩ hopen hmarker hnext ?_
  rw [on_userWindow rest hwindow, Action.on_bind_of_ok _ hfound, Action.on_pure]

/-- A page of grants in a walk of its own. -/
theorem on_grants (hnames : h.WellNamed) (hnodup : (h.users.map (·.1)).Nodup) {size : Nat}
    (policy : Resource) {marker : Option String} {batch : Batch (String × UserAnswer)}
    (hmarker : marker ≠ some "") (hwindow : window h.users marker size = .ok batch) :
    (Membership.grants size policy (bookmark .user marker)).on (Holdings.gateway rest) (h, t) =
      (.ok ⟨(Holdings.holders policy.id.name batch.records).map (Membership.grantOf policy.id),
        bookmark .user batch.next⟩, (h, t)) := by
  have hopen : openCursor (bookmark .user marker) .user =
      .ok (Cursor.empty.push ⟨.user, marker.getD ""⟩) := openCursor_bookmark .user marker
  rw [bookmark_eq .user batch.next]
  exact on_grants_of_open rest hnames hnodup policy hopen hmarker hwindow

end Connector

end VaultAccess
