import VaultAccess.Connector.FullSync
import VaultAccess.Proofs.Connector.Pages
import VaultAccess.Proofs.Connector.Mounting
import VaultAccess.Proofs.Vault.Acceptance

/-!
# What a walk does with its answers

Every page, every drain and every walk over the kinds stops at the first answer that it cannot do
with. Where all answers are sound a walk comes to its end: each page leads on to a later one, and
there are fewer pages than markers.
-/
namespace VaultAccess

open Vault Program Paging Exchange

/-! ## Pages that stop -/

namespace Membership

theorem holders_heeds (policy : String) (users : List String) : (holders policy users).Heeds := by
  induction users with
  | nil => exact .pure _
  | cons user rest ih =>
    exact .bind (userPolicies_heeds user) fun _ => .bind ih fun _ => .pure _

theorem loggedPage_heeds {ρ α : Type} (cursor : String) (kind : Kind)
    {fetch : Option String → Action (Batch ρ)} (hfetch : ∀ m, (fetch m).Heeds) (map : ρ → α) :
    (loggedPage cursor kind fetch map).Heeds := by
  unfold loggedPage listPage
  split
  · exact .throw _
  · exact .bind (.bind (hfetch _) fun _ => .bind (.note _ _) fun _ => .pure _) fun _ => .pure _

theorem grants_heeds (pageSize : Nat) (policy : Resource) (cursor : String) :
    (grants pageSize policy cursor).Heeds :=
  loggedPage_heeds _ _ (fun _ => .bind listUsers_heeds fun _ => .bind (.ofExcept _) fun _ =>
    .bind (holders_heeds _ _) fun _ => .pure _) _

end Membership

namespace Connector

theorem getUsers_heeds (names : List String) : (getUsers names).Heeds := by
  induction names with
  | nil => exact .pure _
  | cons name rest ih => exact .bind (getUser_heeds name) fun _ => .bind ih fun _ => .pure _

theorem wholeListing_heeds {ρ : Type} (kind : Kind) {records : Action (List ρ)}
    (hrecords : records.Heeds) (project : ρ → Option ResourceId → Resource)
    (parent : Option ResourceId) (cursor : String) :
    (wholeListing kind records project parent cursor).Heeds :=
  Membership.loggedPage_heeds _ _ (fun _ => .bind hrecords fun _ => .pure _) _

theorem listUserPage_heeds (pageSize : Nat) (parent : Option ResourceId) (cursor : String) :
    (listUserPage pageSize parent cursor).Heeds := by
  refine Membership.loggedPage_heeds _ _ (fun marker => ?_) _
  exact .bind listUsers_heeds fun _ => .bind (.ofExcept _) fun _ =>
    .bind (getUsers_heeds _) fun _ => .pure _

theorem listRolePage_heeds (parent : Option ResourceId) (cursor : String) :
    (listRolePage parent cursor).Heeds := by
  refine Membership.loggedPage_heeds _ _ (fun marker => ?_) _
  refine .bind (.ofExcept _) fun phase => ?_
  exact .bind (listRoles_heeds _) fun _ => .pure _

theorem listKind_heeds (c : Connector) (kind : Kind) (parent : Option ResourceId)
    (cursor : String) : (c.listKind kind parent cursor).Heeds := by
  cases kind with
  | user => exact listUserPage_heeds _ parent cursor
  | role => exact listRolePage_heeds parent cursor
  | policy => exact wholeListing_heeds _ listPolicies_heeds _ _ _
  | secret => exact wholeListing_heeds _ listSecretMounts_heeds _ _ _
  | authMethod => exact wholeListing_heeds _ listAuthMethods_heeds _ _ _
  | group => exact wholeListing_heeds _ listGroups_heeds _ _ _
  | entity => exact wholeListing_heeds _ listEntities_heeds _ _ _

theorem grantsOf_heeds (c : Connector) (kind : Kind) (r : Resource) (cursor : String) :
    (c.grantsOf kind r cursor).Heeds := by
  cases kind with
  | policy => exact Membership.grants_heeds _ r cursor
  | _ => exact .pure _

end Connector

/-! ## Pages that lead on -/

/-- Where a page at an offset may lead: to its end, or to a later offset below a limit. -/
def Paging.Onward (limit offset : Nat) (next : Option String) : Prop :=
  next = none ∨ ∃ later, offset < later ∧ later < limit ∧ next = offsetMarker later

theorem Paging.Onward.ne_empty {limit offset : Nat} {next : Option String}
    (h : Onward limit offset next) : next ≠ some "" := by
  rcases h with rfl | ⟨later, -, -, rfl⟩
  · exact nofun
  · exact offsetMarker_ne_empty later

/-- That a page leads on from an offset. -/
def Paging.Page.LeadsOn {α : Type} (kind : Kind) (limit offset : Nat) (p : Page α) : Prop :=
  ∃ next, Onward limit offset next ∧ p.nextCursor = bookmark kind next

/-- The windows of a listing that a machine word counts lead on. -/
theorem Paging.exists_window {ρ : Type} {all : List ρ} (size : Nat) {offset : Nat}
    (hoffset : offset < Text.Decimal.wordLimit) (hcount : all.length ≤ Text.Decimal.wordLimit) :
    ∃ batch, window all (offsetMarker offset) size = .ok batch ∧
      Onward Text.Decimal.wordLimit offset batch.next := by
  by_cases hmore : offset + max size 1 < all.length
  · exact ⟨_, window_more all size hoffset hmore, .inr ⟨_, by omega, by omega, rfl⟩⟩
  · exact ⟨_, window_last all size hoffset (by omega), .inl rfl⟩

namespace Membership

theorem holders_relies (policy : String) {users : List String}
    (husers : ∀ user ∈ users, Holdings.IsSegment user) :
    (holders policy users).Relies Sound fun _ => True := by
  induction users with
  | nil => exact .pure trivial
  | cons user rest ih =>
    obtain ⟨huser, hrest⟩ := List.forall_mem_cons.mp husers
    exact .bind (userPolicies_relies huser) fun _ _ => .bind (ih hrest) fun _ _ => .pure trivial

/-- A step from an offset leads on if the batch does that is fetched there. -/
theorem loggedPage_relies {ρ α : Type} (kind : Kind) {limit offset : Nat}
    {fetch : Option String → Action (Batch ρ)} (map : ρ → α)
    (hfetch : (fetch (offsetMarker offset)).Relies Sound fun batch =>
      Onward limit offset batch.next) :
    (loggedPage (bookmark kind (offsetMarker offset)) kind fetch map).Relies Sound
      (Page.LeadsOn kind limit offset) := by
  rw [loggedPage, listPage_bookmark kind (offsetMarker_ne_empty offset)]
  refine .bind (.bind hfetch fun batch hnext => .bind (.note _ _) fun _ _ => .pure hnext)
    fun batch hnext => .pure ⟨batch.next, hnext, ?_⟩
  rw [turn_bookmark kind _ map hnext.ne_empty]

/-- What is done with a window of the user listing may rely on orderly names. -/
theorem userWindow_relies {β : Type} {size offset : Nat}
    (hoffset : offset < Text.Decimal.wordLimit) {f : Batch String → Action (Batch β)}
    (hf : ∀ batch, (∀ name ∈ batch.records, Holdings.IsSegment name) →
      (f batch).Relies Sound fun found => found.next = batch.next) :
    (do
      let names ← listUsers
      let batch ← Action.ofExcept (window names (offsetMarker offset) size)
      f batch : Action (Batch β)).Relies Sound fun found =>
        Onward Text.Decimal.wordLimit offset found.next := by
  refine .bind listUsers_relies fun names hnames => ?_
  obtain ⟨batch, hwindow, hnext⟩ := exists_window size hoffset hnames.counted
  refine .ofExcept_bind hwindow ?_
  have hsegments : ∀ name ∈ batch.records, Holdings.IsSegment name := fun name hname =>
    hnames.named name (mem_of_mem_window hwindow name hname)
  exact (hf batch hsegments).imp fun found hfound => hfound ▸ hnext

theorem grants_relies (size : Nat) (policy : Resource) {offset : Nat}
    (hoffset : offset < Text.Decimal.wordLimit) :
    (grants size policy (bookmark .user (offsetMarker offset))).Relies Sound
      (Page.LeadsOn .user Text.Decimal.wordLimit offset) := by
  refine loggedPage_relies .user _ (userWindow_relies hoffset fun batch hnames => ?_)
  exact .bind (holders_relies _ hnames) fun _ _ => .pure rfl

end Membership

namespace Connector

theorem getUsers_relies {names : List String} (hnames : ∀ name ∈ names, Holdings.IsSegment name) :
    (getUsers names).Relies Sound fun _ => True := by
  induction names with
  | nil => exact .pure trivial
  | cons name rest ih =>
    obtain ⟨hname, hrest⟩ := List.forall_mem_cons.mp hnames
    exact .bind (getUser_relies hname) fun _ _ => .bind (ih hrest) fun _ _ => .pure trivial

theorem listUserPage_relies (size : Nat) {offset : Nat}
    (hoffset : offset < Text.Decimal.wordLimit) :
    (listUserPage size none (bookmark .user (offsetMarker offset))).Relies Sound
      (Page.LeadsOn .user Text.Decimal.wordLimit offset) := by
  refine Membership.loggedPage_relies .user _
    (Membership.userWindow_relies hoffset fun batch hnames => ?_)
  exact .bind (getUsers_relies hnames) fun _ _ => .pure rfl

/-- A listing that comes in one piece has no page but the first. -/
theorem wholeListing_relies {ρ : Type} (kind : Kind) {records : Action (List ρ)}
    (hrecords : records.Relies Sound fun _ => True) (project : ρ → Option ResourceId → Resource)
    (offset : Nat) :
    (wholeListing kind records project none (bookmark kind (offsetMarker offset))).Relies Sound
      (Page.LeadsOn kind 1 offset) :=
  Membership.loggedPage_relies kind _ (.bind hrecords fun _ _ => .pure (.inl rfl))

/-- There are two pages of roles. -/
theorem listRolePage_relies {offset : Nat} (hoffset : offset < 2) :
    (listRolePage none (bookmark .role (offsetMarker offset))).Relies Sound
      (Page.LeadsOn .role 2 offset) := by
  have hphase : ∃ source next, rolePhase (offsetMarker offset) = .ok (source, next) ∧
      Onward 2 offset next := by
    obtain rfl | rfl : offset = 0 ∨ offset = 1 := by omega
    · exact ⟨_, _, rolePhase_start, .inr ⟨1, by decide, by decide, rfl⟩⟩
    · exact ⟨_, _, rolePhase_second, .inl rfl⟩
  obtain ⟨source, next, hphase, hnext⟩ := hphase
  refine Membership.loggedPage_relies .role _ (.ofExcept_bind hphase ?_)
  exact .bind (listRoles_relies source) fun _ _ => .pure hnext

end Connector

/-! ## Sessions -/

namespace Connector.Session

variable {α β : Type} {P : Exchange → Prop} {Q : α → Prop} {R : β → Prop} {x : Session α}
  {f : α → Session β}

/-- Once the backends are mounted, the session stops at the first answer that is not acceptable,
with the fault of that answer. -/
def Heeds (x : Session α) : Prop :=
  ∀ outcomes, Program.Heeds (fun y r => y.Ends r.1) (fun r => r.2 = ⟨some outcomes⟩)
    (x.run ⟨some outcomes⟩)

/-- Once the backends are mounted, and where every exchange satisfies `P`, the session succeeds,
with a value that satisfies `Q`. -/
def Relies (P : Exchange → Prop) (Q : α → Prop) (x : Session α) : Prop :=
  ∀ outcomes, Program.Relies P (fun r => ∃ v, r = (.ok v, ⟨some outcomes⟩) ∧ Q v)
    (x.run ⟨some outcomes⟩)

theorem Heeds.pure (v : α) : Heeds (Pure.pure v) := fun _ => rfl

theorem Heeds.throw (e : Fault) : Heeds (MonadExcept.throw e : Session α) := fun _ => rfl

theorem Heeds.ofTask {t : Action α} (ht : t.Heeds) : Heeds (ofTask t) := by
  intro outcomes
  rw [run_ofTask]
  exact Program.Heeds.bind ht (fun _ _ h => h) fun _ _ => rfl

theorem Heeds.bind (hx : Heeds x) (hf : ∀ v, Heeds (f v)) : Heeds (x >>= f) := by
  intro outcomes
  rw [run_bind]
  refine Program.Heeds.bind (hx outcomes) ?_ ?_
  · rintro y ⟨r, memory⟩ ⟨e, he, hr⟩
    cases hr
    exact ⟨e, he, rfl⟩
  · rintro ⟨r, memory⟩ hr
    cases hr
    cases r with
    | ok v => exact hf v outcomes
    | error e => rfl

/-- With the backends mounted a task is run at once. -/
theorem Heeds.mounted (c : Connector) {t : Action α} (ht : t.Heeds) : Heeds (c.mounted t) := by
  intro outcomes
  rw [Connector.mounted, run_bootstrap_bind_mounted]
  exact Heeds.ofTask ht outcomes

theorem Relies.pure {v : α} (h : Q v) : Relies P Q (Pure.pure v) := fun _ => ⟨v, rfl, h⟩

theorem Relies.ofTask {t : Action α} (ht : t.Relies P Q) : Relies P Q (ofTask t) := by
  intro outcomes
  rw [run_ofTask]
  refine Program.Relies.bind ht ?_
  rintro r ⟨v, rfl, hv⟩
  exact ⟨v, rfl, hv⟩

theorem Relies.bind (hx : Relies P Q x) (hf : ∀ v, Q v → Relies P R (f v)) :
    Relies P R (x >>= f) := by
  intro outcomes
  rw [run_bind]
  refine Program.Relies.bind (hx outcomes) ?_
  rintro r ⟨v, rfl, hv⟩
  exact hf v hv outcomes

theorem Relies.mounted (c : Connector) {t : Action α} (ht : t.Relies P Q) :
    Relies P Q (c.mounted t) := by
  intro outcomes
  rw [Connector.mounted, run_bootstrap_bind_mounted]
  exact Relies.ofTask ht outcomes

/-! ## Draining -/

variable {page : String → Session (Page α)}

theorem Heeds.drain (hpage : ∀ cursor, Heeds (page cursor)) : Heeds (drain page) := by
  have hfrom (fuel : Nat) (cursor : String) : Heeds (drainFrom page fuel cursor) := by
    induction fuel generalizing cursor with
    | zero => exact .throw _
    | succ fuel ih =>
      refine .bind (hpage cursor) fun p => ?_
      split
      · exact .pure _
      · split
        · exact .bind (.throw _) fun _ => .bind (ih _) fun _ => .pure _
        · exact .bind (ih _) fun _ => .pure _
  exact hfrom _ _

/-- Pages that lead on from every offset below a limit are drained to their end. Each page moves
the offset, so there are no more of them than offsets below the limit. -/
theorem Relies.drainFrom {kind : Kind} {limit : Nat}
    (hpage : ∀ offset < limit,
      Relies P (Page.LeadsOn kind limit offset) (page (bookmark kind (offsetMarker offset))))
    {fuel offset : Nat} (hoffset : offset < limit) (hfuel : limit ≤ offset + fuel) :
    Relies P (fun _ => True)
      (Connector.drainFrom page fuel (bookmark kind (offsetMarker offset))) := by
  induction fuel generalizing offset with
  | zero => omega
  | succ fuel ih =>
    refine .bind (hpage offset hoffset) fun p ⟨next, hnext, hcursor⟩ => ?_
    rcases hnext with rfl | ⟨later, hlater, hbelow, rfl⟩
    · have hlast : p.nextCursor = "" := hcursor
      rw [if_pos hlast]
      exact .pure trivial
    · have hne : p.nextCursor ≠ "" := by
        rw [hcursor]
        exact bookmark_offsetMarker_ne kind (by omega)
      have hmoves : p.nextCursor ≠ bookmark kind (offsetMarker offset) := fun h => by
        have hmarker := bookmark_injective kind (hcursor.symm.trans h)
        have := offsetMarker_injective hmarker
        omega
      rw [if_neg hne, if_neg hmoves, hcursor]
      exact .bind (ih hbelow (by omega)) fun _ _ => .pure trivial

theorem Relies.drain (kind : Kind) (limit : Nat) (hpos : 0 < limit)
    (hlimit : limit ≤ Text.Decimal.wordLimit)
    (hpage : ∀ offset < limit,
      Relies P (Page.LeadsOn kind limit offset) (page (bookmark kind (offsetMarker offset)))) :
    Relies P (fun _ => True) (drain page) := by
  have hfuel : limit ≤ 0 + maxPages := by
    have hmax : Text.Decimal.wordLimit ≤ maxPages := by decide
    omega
  exact Relies.drainFrom hpage hpos hfuel

end Connector.Session

/-! ## Walks over kinds -/

namespace Connector

open Session

theorem list_heeds (c : Connector) (kind : Kind) :
    Session.Heeds (drain fun cursor => c.list kind none cursor) :=
  .drain fun cursor => .mounted c (listKind_heeds c kind none cursor)

theorem holdings_heeds (c : Connector) (kind : Kind) (resources : List Resource) :
    Session.Heeds (c.holdings kind resources) := by
  induction resources with
  | nil => exact .pure _
  | cons r rest ih =>
    have hoffered : Session.Heeds (drain fun _ => c.entitlements kind r) :=
      .drain fun _ => .mounted c (.pure _)
    have hheld : Session.Heeds (drain fun cursor => c.grants kind r cursor) :=
      .drain fun cursor => .mounted c (grantsOf_heeds c kind r cursor)
    exact .bind hoffered fun _ => .bind hheld fun _ => .bind ih fun _ => .pure _

theorem syncKinds_heeds (c : Connector) (kinds : List Kind) (report : Report) :
    Session.Heeds (c.syncKinds kinds report) := by
  induction kinds generalizing report with
  | nil => exact .pure _
  | cons kind rest ih =>
    have hkind : Session.Heeds (c.syncKind kind report) :=
      .bind (list_heeds c kind) fun _ => .bind (.ofTask (.note _ _)) fun _ =>
        .bind (holdings_heeds c kind _) fun _ => .pure _
    exact .bind hkind fun _ => ih _

/-- A listing that comes in one piece is drained. -/
theorem drain_wholeListing_relies {ρ : Type} (c : Connector) (kind : Kind)
    {records : Action (List ρ)} (hrecords : records.Relies Sound fun _ => True)
    (project : ρ → Option ResourceId → Resource) :
    Session.Relies Sound (fun _ => True)
      (drain fun cursor => c.mounted (wholeListing kind records project none cursor)) :=
  .drain kind 1 (by decide) (by decide) fun offset _ =>
    .mounted c (wholeListing_relies kind hrecords project offset)

theorem list_relies (c : Connector) (kind : Kind) :
    Session.Relies Sound (fun _ => True) (drain fun cursor => c.list kind none cursor) := by
  cases kind with
  | user =>
    exact .drain .user Text.Decimal.wordLimit (by decide) (Nat.le_refl _) fun offset hoffset =>
      .mounted c (listUserPage_relies c.pageSize hoffset)
  | role =>
    exact .drain .role 2 (by decide) (by decide) fun offset hoffset =>
      .mounted c (listRolePage_relies hoffset)
  | policy => exact drain_wholeListing_relies c .policy listPolicies_relies _
  | secret => exact drain_wholeListing_relies c .secret listSecretMounts_relies _
  | authMethod => exact drain_wholeListing_relies c .authMethod listAuthMethods_relies _
  | group => exact drain_wholeListing_relies c .group listGroups_relies _
  | entity => exact drain_wholeListing_relies c .entity listEntities_relies _

/-- What asks nothing and gives one page is drained. -/
theorem drain_page_relies {α : Type} (c : Connector) {p : Page α} (hlast : p.nextCursor = "") :
    Session.Relies Sound (fun _ => True) (drain fun _ => c.mounted (return p)) :=
  .drain .user 1 (by decide) (by decide) fun _ _ =>
    .mounted c (.pure ⟨none, .inl rfl, hlast⟩)

theorem entitlements_relies (c : Connector) (kind : Kind) (r : Resource) :
    Session.Relies Sound (fun _ => True) (drain fun _ => c.entitlements kind r) :=
  drain_page_relies c (by cases kind <;> rfl)

theorem grants_relies (c : Connector) (kind : Kind) (r : Resource) :
    Session.Relies Sound (fun _ => True) (drain fun cursor => c.grants kind r cursor) := by
  cases kind with
  | policy =>
    exact .drain .user Text.Decimal.wordLimit (by decide) (Nat.le_refl _) fun offset hoffset =>
      .mounted c (Membership.grants_relies c.pageSize r hoffset)
  | _ => exact drain_page_relies c rfl

theorem holdings_relies (c : Connector) (kind : Kind) (resources : List Resource) :
    Session.Relies Sound (fun _ => True) (c.holdings kind resources) := by
  induction resources with
  | nil => exact .pure trivial
  | cons r rest ih =>
    exact .bind (entitlements_relies c kind r) fun _ _ => .bind (grants_relies c kind r) fun _ _ =>
      .bind ih fun _ _ => .pure trivial

theorem syncKinds_relies (c : Connector) (kinds : List Kind) (report : Report) :
    Session.Relies Sound (fun _ => True) (c.syncKinds kinds report) := by
  induction kinds generalizing report with
  | nil => exact .pure trivial
  | cons kind rest ih =>
    have hkind : Session.Relies Sound (fun _ => True) (c.syncKind kind report) :=
      .bind (list_relies c kind) fun _ _ => .bind (.ofTask (.note _ _)) fun _ _ =>
        .bind (holdings_relies c kind _) fun _ _ => .pure trivial
    exact .bind hkind fun _ _ => ih _

end Connector

end VaultAccess
