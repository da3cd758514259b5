import VaultAccess.Proofs.Connector.Loops
import VaultAccess.Proofs.Connector.Served
import VaultAccess.Proofs.Paging.Windows
import VaultAccess.Proofs.Vault.Bodies

/-!
# Drains that end

Whatever is answered, a page from an offset is the last or leads one stride on, and it leads on
only as far as what was told to its own call reaches. So the offset that a cursor hides goes up
from call to call and the drain ends, at a vault whose listing is another one every time.
-/
namespace VaultAccess.Connector

open Vault Program Paging Text

variable {α σ : Type}

/-! ## Strides -/

/-- That a page from an offset is the last, or leads one stride on to where what its call was told
lets it go. -/
def LeadsFrom (kind : Kind) (step : Nat) (reaches : List Exchange → Nat → Prop) (offset : Nat)
    (xs : List Exchange) (p : Page α) : Prop :=
  p.nextCursor = "" ∨ offset < Decimal.wordLimit ∧ reaches xs (offset + step) ∧
    p.nextCursor = bookmark kind (offsetMarker (offset + step))

/-- That every page that is handed out leads on in strides. -/
def Strides (kind : Kind) (step : Nat) (reaches : List Exchange → Nat → Prop)
    (page : String → Session (Page α)) : Prop :=
  ∀ offset memory memory' xs p,
    Plays ((page (bookmark kind (offsetMarker offset))).run memory) xs (done (.ok p, memory')) →
      LeadsFrom kind step reaches offset xs p

/-- Calls that go on in strides from an offset: one cursor for each stride, and no more calls than
their answers reach. -/
structure Paced (kind : Kind) (step : Nat) (reaches : List Exchange → Nat → Prop) (offset : Nat)
    (calls : List PageCall) : Prop where
  cursors : calls.map PageCall.cursor =
    (List.range' offset calls.length step).map fun i => bookmark kind (offsetMarker i)
  pos : 0 < calls.length
  length_le : calls.length ≤ 1 + (Decimal.wordLimit - offset)
  length_le_ceilDiv : ∀ limit,
    (∀ call ∈ calls, ∀ later, reaches call.exchanges later → later < limit) →
      calls.length ≤ max 1 ((limit - offset) ⌈/⌉ step)

namespace Paced

variable {kind : Kind} {step offset : Nat} {reaches : List Exchange → Nat → Prop}
  {call : PageCall} {calls : List PageCall}

theorem single (hcursor : call.cursor = bookmark kind (offsetMarker offset)) :
    Paced kind step reaches offset [call] where
  cursors := congrArg (fun cursor => [cursor]) hcursor
  pos := Nat.one_pos
  length_le := Nat.le_add_right 1 _
  length_le_ceilDiv _ _ := Nat.le_max_left 1 _

/-- A call that leads a stride on, and the calls from there. -/
theorem next (hstep : 0 < step) (hcursor : call.cursor = bookmark kind (offsetMarker offset))
    (hword : offset < Decimal.wordLimit) (hreaches : reaches call.exchanges (offset + step))
    (h : Paced kind step reaches (offset + step) calls) :
    Paced kind step reaches offset (call :: calls) where
  cursors := by rw [List.map_cons, h.cursors, hcursor, List.length_cons, List.range'_succ,
    List.map_cons]
  pos := Nat.succ_pos _
  length_le := by
    have hrest := h.length_le
    rw [List.length_cons]
    omega
  length_le_ceilDiv limit hlimit := by
    have hbelow : offset + step < limit := hlimit call List.mem_cons_self _ hreaches
    have hrest := h.length_le_ceilDiv limit fun call hcall =>
      hlimit call (List.mem_cons_of_mem _ hcall)
    have hleft : limit - offset - step = limit - (offset + step) := by omega
    rw [List.length_cons, max_ceilDiv_of_lt hstep (show step < limit - offset by omega), hleft]
    exact Nat.succ_le_succ hrest

/-- Each stride has a cursor of its own. -/
theorem nodup (hstep : 0 < step) (h : Paced kind step reaches offset calls) :
    (calls.map PageCall.cursor).Nodup := by
  have hinjective : Function.Injective fun i => bookmark kind (offsetMarker i) := fun i j hij =>
    offsetMarker_injective (bookmark_injective kind hij)
  rw [h.cursors]
  exact (List.nodup_range' step hstep).map hinjective

end Paced

/-! ## The drain -/

/-- What a drain makes of its pages: with nothing to bound it, it makes these calls, at different
cursors, and no others; and it comes to what the drain does, which asks what the calls ask. -/
structure Exhausts (g : Gateway σ) (page : String → Session (Page α)) (memory : Memory) (s : σ)
    (calls : List PageCall) : Prop where
  loop_iff : ∀ calls' out, Loop g page "" memory s calls' out ↔
    calls' = calls ∧ out = Program.run g ((drain page).run memory) s
  trace_eq : Program.trace g ((drain page).run memory) s = calls.flatMap PageCall.exchanges
  nodup : (calls.map PageCall.cursor).Nodup

namespace Strides

variable {kind : Kind} {step : Nat} {reaches : List Exchange → Nat → Prop}
  {page : String → Session (Page α)}

/-- From every offset a drain in strides ends. A stride takes the offset on, and no offset beyond
the words is read, so the induction is on the words that are left. -/
theorem exists_loop (h : Strides kind step reaches page) (hstep : 0 < step) (g : Gateway σ)
    (offset : Nat) (memory : Memory) (s : σ) :
    ∃ calls out, Loop g page (bookmark kind (offsetMarker offset)) memory s calls out ∧
      Paced kind step reaches offset calls := by
  induction hleft : Decimal.wordLimit - offset using Nat.strong_induction_on
    generalizing offset memory s with
  | _ left ih =>
    have hplays := plays_trace ((page (bookmark kind (offsetMarker offset))).run memory) g s
    rcases hrun : Program.run g ((page (bookmark kind (offsetMarker offset))).run memory) s with
      ⟨⟨r, memory'⟩, s'⟩
    rw [hrun] at hplays
    cases r with
    | error e => exact ⟨_, _, .failed hrun, .single rfl⟩
    | ok p =>
      rcases h offset memory memory' _ p hplays with hlast | ⟨hword, hreaches, hnext⟩
      · exact ⟨_, _, .last hrun hlast, .single rfl⟩
      · have hmore : p.nextCursor ≠ "" := by
          rw [hnext]
          exact bookmark_offsetMarker_ne kind (by omega)
        have hmoved : p.nextCursor ≠ bookmark kind (offsetMarker offset) := fun hsame => by
          have := offsetMarker_injective (bookmark_injective kind (hnext.symm.trans hsame))
          omega
        obtain ⟨calls, ⟨⟨r, memory''⟩, s''⟩, hloop, hpaced⟩ :=
          ih (Decimal.wordLimit - (offset + step)) (by omega) (offset + step) memory' s' rfl
        rw [← hnext] at hloop
        exact ⟨_, _, .next hrun hmore hmoved hloop, .next hstep rfl hword hreaches hpaced⟩

/-- A drain in strides ends. -/
theorem exhausts (h : Strides kind step reaches page) (hstep : 0 < step) (g : Gateway σ)
    (memory : Memory) (s : σ) :
    ∃ calls, Exhausts g page memory s calls ∧ Paced kind step reaches 0 calls := by
  obtain ⟨calls, out, hloop, hpaced⟩ := h.exists_loop hstep g 0 memory s
  have hfuel : calls.length ≤ maxPages := by
    have hlength := hpaced.length_le
    have hmax : maxPages = Decimal.wordLimit + 2 := rfl
    omega
  have hstart : bookmark kind (offsetMarker 0) = "" := rfl
  rw [hstart] at hloop
  obtain ⟨hrun, htrace⟩ := hloop.drainFrom hfuel
  refine ⟨calls, ⟨fun calls' out' => ?_, htrace, hpaced.nodup hstep⟩, hpaced⟩
  rw [drain, hrun]
  constructor
  · exact hloop.unique
  · rintro ⟨rfl, rfl⟩
    exact hloop

theorem ends (h : Strides kind step reaches page) (hstep : 0 < step) (g : Gateway σ) :
    Ends g page := by
  funext memory s out
  obtain ⟨calls, hcalls, -⟩ := h.exhausts hstep g memory s
  refine propext ⟨fun ⟨calls', hloop⟩ => ((hcalls.loop_iff calls' out).mp hloop).2, fun hout => ?_⟩
  exact ⟨calls, (hcalls.loop_iff calls out).mpr ⟨rfl, hout⟩⟩

/-- The pages of a mounted task lead on as those of the task. -/
theorem mounted (c : Connector) {t : String → Action (Page α)}
    (hmono : ∀ pass xs later, reaches xs later → reaches (pass ++ xs) later)
    (ht : ∀ offset xs p, Plays (t (bookmark kind (offsetMarker offset))).run xs (done (.ok p)) →
      LeadsFrom kind step reaches offset xs p) :
    Strides kind step reaches fun cursor => c.mounted (t cursor) := by
  intro offset memory memory' xs p h
  rcases plays_mounted h with ⟨e, -, he⟩ | ⟨pass, own, rfl, -, hown⟩
  · cases he
  · exact (ht offset own p hown).imp id fun ⟨hword, hreaches, hnext⟩ =>
      ⟨hword, hmono pass own _ hreaches, hnext⟩

end Strides

/-! ## Windows of users -/

/-- That a listing of users with more names than this was told. -/
def ListsBeyond (xs : List Exchange) (n : Nat) : Prop :=
  ∃ x ∈ xs, x.request = .list Endpoint.users ∧
    ∃ names, usersIn x.answer = .ok names ∧ n < names.length

/-- A page about a window of the users leads a window on, if the listing goes on there. -/
theorem leadsFrom_windowPage {ρ : Type} {size offset : Nat} {f : List String → Action (List ρ)}
    {map : ρ → α} {xs : List Exchange} {p : Page α}
    (h : Plays (Membership.loggedPage (bookmark .user (offsetMarker offset)) .user (fun marker => do
      let names ← listUsers
      let window ← Action.ofExcept (window names marker size)
      let found ← f window.records
      return ⟨found, window.next⟩) map).run xs (done (.ok p))) :
    LeadsFrom .user (max size 1) ListsBeyond offset xs p := by
  obtain ⟨answer, names, batch, found, ys, rfl, hnames, hwindow, -, rfl⟩ :=
    Membership.plays_windowPage h
  have hword : offset < Decimal.wordLimit := offset_lt_of_window hwindow
  by_cases hmore : offset + max size 1 < names.length
  · rw [window_more names size hword hmore] at hwindow
    cases hwindow
    exact .inr ⟨hword, ⟨_, List.mem_cons_self, rfl, names, hnames, hmore⟩, rfl⟩
  · rw [window_last names size hword (by omega)] at hwindow
    cases hwindow
    exact .inl rfl

theorem ListsBeyond.append {xs : List Exchange} {n : Nat} (pass : List Exchange)
    (h : ListsBeyond xs n) : ListsBeyond (pass ++ xs) n := by
  obtain ⟨x, hx, hlists⟩ := h
  exact ⟨x, List.mem_append_right pass hx, hlists⟩

theorem strides_list_user (c : Connector) (parent : Option ResourceId) :
    Strides .user (max c.pageSize 1) ListsBeyond (c.list .user parent) :=
  .mounted c (fun pass _ _ h => h.append pass) fun _ _ _ h => leadsFrom_windowPage h

theorem strides_grants_policy (c : Connector) (r : Resource) :
    Strides .user (max c.pageSize 1) ListsBeyond (c.grants .policy r) :=
  .mounted c (fun pass _ _ h => h.append pass) fun _ _ _ h => leadsFrom_windowPage h

/-! ## Phases, and listings in one page -/

/-- There is one phase of the roles after the first, and none after that. -/
theorem rolePhase_next {offset : Nat} {source : RoleSource} {next : Option String}
    (h : rolePhase (offsetMarker offset) = .ok (source, next)) :
    next = none ∨ offset = 0 ∧ next = offsetMarker 1 := by
  cases hindex : index "phase" (offsetMarker offset) with
  | error e =>
    rw [rolePhase, phaseIndex, hindex] at h
    cases h
  | ok i =>
    obtain ⟨rfl, -⟩ := index_offsetMarker_ok hindex
    rcases i with _ | _ | i
    · rw [show offsetMarker 0 = none from rfl, rolePhase_start] at h
      cases h
      exact .inr ⟨rfl, rfl⟩
    · rw [show offsetMarker (0 + 1) = offsetMarker 1 from rfl, rolePhase_second] at h
      cases h
      exact .inl rfl
    · have hend : ¬i + 1 + 1 < RoleSource.all.length := Nat.not_lt.mpr (Nat.le_add_left 2 i)
      rw [rolePhase, phaseIndex, hindex] at h
      simp only [if_neg hend] at h
      cases h

theorem strides_list_role (c : Connector) (parent : Option ResourceId) :
    Strides .role 1 (fun _ later => later < 2) (c.list .role parent) := by
  refine .mounted c (fun _ _ _ h => h) fun offset xs p h => ?_
  rw [listKind, listRolePage] at h
  obtain ⟨batch, hfetch, rfl⟩ := Membership.plays_bookmarked (offsetMarker_ne_empty offset) h
  rcases Action.plays_ofExcept_bind hfetch with ⟨e, -, -, he⟩ | ⟨⟨source, next⟩, hphase, hread⟩
  · cases he
  obtain ⟨roles, -, rfl⟩ := Action.plays_map_ok hread
  rcases rolePhase_next hphase with rfl | ⟨rfl, rfl⟩
  · exact .inl rfl
  · exact .inr ⟨by decide, Nat.one_lt_two, rfl⟩

/-- A page on which nothing follows. -/
theorem Strides.of_last (c : Connector) {kind : Kind} {t : String → Action (Page α)}
    (ht : ∀ offset xs p, Plays (t (bookmark kind (offsetMarker offset))).run xs (done (.ok p)) →
      p.nextCursor = "") :
    Strides kind 1 (fun _ _ => False) fun cursor => c.mounted (t cursor) :=
  .mounted c (fun _ _ _ h => h) fun offset xs p h => .inl (ht offset xs p h)

theorem last_wholeListing {ρ : Type} {kind : Kind} {records : Action (List ρ)}
    {project : ρ → Option ResourceId → Resource} {parent : Option ResourceId} {offset : Nat}
    {xs : List Exchange} {p : Page Resource}
    (h : Plays (wholeListing kind records project parent
      (bookmark kind (offsetMarker offset))).run xs (done (.ok p))) : p.nextCursor = "" := by
  obtain ⟨batch, hfetch, rfl⟩ := Membership.plays_bookmarked (offsetMarker_ne_empty offset) h
  obtain ⟨found, -, rfl⟩ := Action.plays_map_ok hfetch
  rfl

theorem strides_list_whole (c : Connector) {kind : Kind} (huser : kind ≠ .user)
    (hrole : kind ≠ .role) (parent : Option ResourceId) :
    Strides kind 1 (fun _ _ => False) (c.list kind parent) := by
  refine .of_last c fun offset xs p h => ?_
  cases kind with
  | user => exact absurd rfl huser
  | role => exact absurd rfl hrole
  | policy | secret | authMethod | group | entity => exact last_wholeListing h

theorem strides_entitlements (c : Connector) (kind : Kind) (r : Resource) :
    Strides kind 1 (fun _ _ => False) fun _ => c.entitlements kind r := by
  refine .of_last c (t := fun _ => return entitlementsOf kind r) fun offset xs p h => ?_
  obtain ⟨-, hp⟩ := Action.plays_pure h
  cases hp
  cases kind <;> rfl

theorem strides_grants_other (c : Connector) {kind : Kind} (hpolicy : kind ≠ .policy)
    (r : Resource) : Strides kind 1 (fun _ _ => False) (c.grants kind r) := by
  refine .of_last c fun offset xs p h => ?_
  cases kind with
  | policy => exact absurd rfl hpolicy
  | _ =>
    obtain ⟨-, hp⟩ := Action.plays_pure h
    cases hp
    rfl

/-! ## Every drain -/

/-- That no listing of users with more names than this was told to calls. -/
def ListsAtMost (n : Nat) (calls : List PageCall) : Prop :=
  ∀ call ∈ calls, ∀ x ∈ call.exchanges, x.request = .list Endpoint.users →
    ∀ names, usersIn x.answer = .ok names → names.length ≤ n

theorem ListsAtMost.lt_of_listsBeyond {n later : Nat} {calls : List PageCall}
    (h : ListsAtMost n calls) {call : PageCall} (hcall : call ∈ calls)
    (hbeyond : ListsBeyond call.exchanges later) : later < n := by
  obtain ⟨x, hx, hlists, names, hnames, hlater⟩ := hbeyond
  exact Nat.lt_of_lt_of_le hlater (h call hcall x hx hlists names hnames)

/-- A gateway that never lists more users than this tells no call of more. -/
theorem Exhausts.listsAtMost {g : Gateway σ} {page : String → Session (Page α)} {memory : Memory}
    {s : σ} {calls : List PageCall} (h : Exhausts g page memory s calls) {n : Nat}
    (hserves : ∀ s names, usersIn (g.answer (.list Endpoint.users) s).1 = .ok names →
      names.length ≤ n) : ListsAtMost n calls := by
  intro call hcall x hx hlists names hnames
  have hmem : x ∈ Program.trace g ((drain page).run memory) s := by
    rw [h.trace_eq]
    exact List.mem_flatMap.mpr ⟨call, hcall, hx⟩
  obtain ⟨s', hanswer⟩ := answered_of_mem_trace g _ s x hmem
  rw [hlists] at hanswer
  exact hserves s' names (hanswer ▸ hnames)

/-- A drain over windows of the users takes no more calls than the longest listing that it was told
has windows. -/
theorem Strides.exhausts_windows {page : String → Session (Page α)} {size : Nat} (hsize : 0 < size)
    (h : Strides .user size ListsBeyond page) (g : Gateway σ) (memory : Memory) (s : σ) :
    ∃ calls, Exhausts g page memory s calls ∧
      ∀ n, ListsAtMost n calls → calls.length ≤ max 1 (n ⌈/⌉ size) := by
  obtain ⟨calls, hcalls, hpaced⟩ := h.exhausts hsize g memory s
  refine ⟨calls, hcalls, fun n hlists => ?_⟩
  exact hpaced.length_le_ceilDiv n fun call hcall later hlater =>
    hlists.lt_of_listsBeyond hcall hlater

/-- A drain whose first page is the last takes one call. -/
theorem Strides.exhausts_once {kind : Kind} {page : String → Session (Page α)}
    (h : Strides kind 1 (fun _ _ => False) page) (g : Gateway σ) (memory : Memory) (s : σ) :
    ∃ calls, Exhausts g page memory s calls ∧ calls.length = 1 := by
  obtain ⟨calls, hcalls, hpaced⟩ := h.exhausts Nat.one_pos g memory s
  have hle : calls.length ≤ 1 := hpaced.length_le_ceilDiv 0 fun _ _ _ hfalse => hfalse.elim
  exact ⟨calls, hcalls, Nat.le_antisymm hle hpaced.pos⟩

theorem exhausts_roles (c : Connector) (parent : Option ResourceId) (g : Gateway σ)
    (memory : Memory) (s : σ) :
    ∃ calls, Exhausts g (c.list .role parent) memory s calls ∧ calls.length ≤ 2 := by
  obtain ⟨calls, hcalls, hpaced⟩ :=
    (strides_list_role c parent).exhausts Nat.one_pos g memory s
  exact ⟨calls, hcalls, hpaced.length_le_ceilDiv 2 fun _ _ _ hlater => hlater⟩

/-- The drains of a full sync end, so nothing is lost by the bound that they are given. -/
theorem unbounded_fullSync (g : Gateway σ) (c : Connector) :
    Unbounded.fullSync g c = .of g c.fullSync := by
  have hsize : 0 < max c.pageSize 1 := by omega
  refine unbounded_fullSync_eq (fun kind => ?_)
    (fun kind r => (strides_entitlements c kind r).ends Nat.one_pos g) fun kind r => ?_
  · by_cases huser : kind = .user
    · exact huser ▸ (strides_list_user c none).ends hsize g
    · by_cases hrole : kind = .role
      · exact hrole ▸ (strides_list_role c none).ends Nat.one_pos g
      · exact (strides_list_whole c huser hrole none).ends Nat.one_pos g
  · by_cases hpolicy : kind = .policy
    · exact hpolicy ▸ (strides_grants_policy c r).ends hsize g
    · exact (strides_grants_other c hpolicy r).ends Nat.one_pos g

/-- Every drain ends, whatever is answered. With nothing to bound it, it makes one sequence of
calls, no two at one cursor, and comes to what the bounded drain does. Over the users, or over the
holders of a policy, there is a call for each window of the longest listing that was told, or just
one; over the roles there are two at most; over anything else there is one. So a full sync made of
such drains comes to the one report or error of the bounded one. -/
theorem every_drain_ends (c : Connector) (g : Gateway σ) (memory : Memory) (s : σ) :
    (∀ parent, ∃ calls, Exhausts g (c.list .user parent) memory s calls ∧
      ∀ n, ListsAtMost n calls → calls.length ≤ max 1 (n ⌈/⌉ max c.pageSize 1)) ∧
    (∀ r, ∃ calls, Exhausts g (c.grants .policy r) memory s calls ∧
      ∀ n, ListsAtMost n calls → calls.length ≤ max 1 (n ⌈/⌉ max c.pageSize 1)) ∧
    (∀ parent, ∃ calls, Exhausts g (c.list .role parent) memory s calls ∧ calls.length ≤ 2) ∧
    (∀ kind parent, kind ≠ .user → kind ≠ .role →
      ∃ calls, Exhausts g (c.list kind parent) memory s calls ∧ calls.length = 1) ∧
    (∀ kind r, ∃ calls, Exhausts g (fun _ => c.entitlements kind r) memory s calls ∧
      calls.length = 1) ∧
    (∀ kind r, kind ≠ .policy →
      ∃ calls, Exhausts g (c.grants kind r) memory s calls ∧ calls.length = 1) ∧
    ∀ out, Unbounded.fullSync g c memory s out ↔
      out = Program.run g (c.fullSync.run memory) s := by
  have hsize : 0 < max c.pageSize 1 := by omega
  refine ⟨fun parent => ?_, fun r => ?_, fun parent => exhausts_roles c parent g memory s,
    fun kind parent huser hrole => ?_, fun kind r => ?_, fun kind r hpolicy => ?_, fun out => ?_⟩
  · exact (strides_list_user c parent).exhausts_windows hsize g memory s
  · exact (strides_grants_policy c r).exhausts_windows hsize g memory s
  · exact (strides_list_whole c huser hrole parent).exhausts_once g memory s
  · exact (strides_entitlements c kind r).exhausts_once g memory s
  · exact (strides_grants_other c hpolicy r).exhausts_once g memory s
  · rw [unbounded_fullSync]
    rfl

/-- A server that lists three users at first and two from then on, none of whom has a policy. -/
def fickle : Gateway Nat where
  answer r listings :=
    match r.method with
    | .list =>
      let names := if listings = 0 then ["ada", "bob", "cid"] else ["ada", "bob"]
      (.ok ⟨200, Listing.toJson ⟨⟨names, []⟩, none⟩⟩, listings + 1)
    | _ => (.ok ⟨200, UserAnswer.toJson ⟨.absent, none⟩⟩, listings)
  log _ listings := listings

theorem fickle_lists {listings : Nat} {names : List String}
    (h : usersIn (fickle.answer (.list Endpoint.users) listings).1 = .ok names) :
    names.length ≤ 3 := by
  cases listings with
  | zero =>
    have hfirst : usersIn (fickle.answer (.list Endpoint.users) 0).1 =
        .ok ["ada", "bob", "cid"] := by decide +kernel
    cases hfirst.symm.trans h
    decide
  | succ listings =>
    have hlater : usersIn (fickle.answer (.list Endpoint.users) 1).1 =
        .ok ["ada", "bob"] := by decide +kernel
    cases hlater.symm.trans h
    decide

/-- Three users listed at first would take three calls, one by one. The third is gone at the second
call, which is the last. -/
theorem every_drain_ends_of_fickle :
    let page := (⟨[], 1⟩ : Connector).grants .policy (Projection.ofPolicy ⟨"dev", none⟩ none)
    ∃ calls, Exhausts fickle page .fresh 0 calls ∧ ListsAtMost 3 calls ∧
      calls.length ≤ 3 ∧ calls.map PageCall.cursor = ["", bookmark .user (some "1")] := by
  intro page
  have hfirst : Program.run fickle ((page "").run .fresh) 0 =
      ((.ok ⟨[], bookmark .user (some "1")⟩, ⟨some []⟩), 1) := by decide +kernel
  have hsecond : Program.run fickle ((page (bookmark .user (some "1"))).run ⟨some []⟩) 1 =
      ((.ok ⟨[], ""⟩, ⟨some []⟩), 2) := by decide +kernel
  have hmore := bookmark_some_ne .user "1"
  have hloop : Loop fickle page "" .fresh 0 _ _ :=
    .next hfirst hmore hmore (.last hsecond rfl)
  obtain ⟨-, hgrants, -⟩ := every_drain_ends ⟨[], 1⟩ fickle .fresh 0
  obtain ⟨calls, hcalls, hbound⟩ := hgrants (Projection.ofPolicy ⟨"dev", none⟩ none)
  have hlists : ListsAtMost 3 calls := hcalls.listsAtMost fun _ _ h => fickle_lists h
  obtain ⟨rfl, -⟩ := (hcalls.loop_iff _ _).mp hloop
  exact ⟨_, hcalls, hlists, (hbound 3 hlists).trans (by decide), rfl⟩

end VaultAccess.Connector
