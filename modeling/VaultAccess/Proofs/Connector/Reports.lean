import VaultAccess.Proofs.Connector.Losses
import VaultAccess.Proofs.Connector.Sync
import VaultAccess.Proofs.Vault.UserPaths

/-!
# What a report can be

A sync may fail: a backend is refused, a user has a name that is no segment of a path, or an offset
is no word. But a sync that gives a report gives the graph of the vault, and has read every user.
-/
namespace VaultAccess

open Vault Program Paging Text

/-- Holdings in which users and mounts are told by their names. -/
structure Vault.Holdings.Keyed (h : Holdings) : Prop where
  users : (h.users.map (·.1)).Nodup
  mounts : (h.mounts.map (·.1)).Nodup
  authMethods : (h.authMethods.map (·.1)).Nodup

namespace Vault.Action

variable {α β σ : Type} {g : Gateway σ} {s : σ} {P : α → Prop} {Q : β → Prop}

/-- That what an action gives, if it gives anything, is of a sort, and all else stays as it is. -/
def Yields (g : Gateway σ) (s : σ) (P : α → Prop) (x : Action α) : Prop :=
  ∀ a, (x.on g s).1 = .ok a → P a ∧ (x.on g s).2 = s

theorem Yields.of_on {x : Action α} {a : α} (h : x.on g s = (.ok a, s)) (ha : P a) :
    Yields g s P x := by
  intro b hb
  rw [h] at hb ⊢
  cases hb
  exact ⟨ha, rfl⟩

theorem Yields.pure {a : α} (ha : P a) : Yields g s P (Pure.pure a) := .of_on rfl ha

theorem Yields.ofExcept {r : Except Fault α} (h : ∀ a, r = .ok a → P a) :
    Yields g s P (ofExcept r) := fun a ha => ⟨h a ha, rfl⟩

theorem Yields.imp {R : α → Prop} {x : Action α} (hx : Yields g s P x) (h : ∀ a, P a → R a) :
    Yields g s R x := fun a ha => ⟨h a (hx a ha).1, (hx a ha).2⟩

theorem Yields.bind {x : Action α} {f : α → Action β} (hx : Yields g s P x)
    (hf : ∀ a, P a → Yields g s Q (f a)) : Yields g s Q (x >>= f) := by
  intro b hb
  cases hon : (x.on g s).1 with
  | error e =>
    rw [on_bind, hon] at hb
    cases hb
  | ok a =>
    obtain ⟨ha, hs⟩ := hx a hon
    have hgives : x.on g s = (.ok a, s) := Prod.ext hon hs
    rw [on_bind_of_ok f hgives] at hb ⊢
    exact hf a ha b hb

end Vault.Action

namespace Connector.Session

variable {α β σ : Type} {g : Gateway σ} {s : σ} {P : α → Prop} {Q : β → Prop}

/-- That what a session gives once the backends are mounted, if it gives anything, is of a sort,
and all else stays as it is. -/
def Yields (g : Gateway σ) (s : σ) (P : α → Prop) (x : Session α) : Prop :=
  ∀ outcomes a, (Program.run g (x.run ⟨some outcomes⟩) s).1.1 = .ok a →
    P a ∧ Program.run g (x.run ⟨some outcomes⟩) s = ((.ok a, ⟨some outcomes⟩), s)

theorem Yields.of_gives {x : Session α} {a : α} (h : Gives g s x a) (ha : P a) :
    Yields g s P x := by
  intro outcomes b hb
  rw [h outcomes] at hb ⊢
  cases hb
  exact ⟨ha, rfl⟩

theorem Yields.pure {a : α} (ha : P a) : Yields g s P (Pure.pure a) := .of_gives (.pure a) ha

theorem Yields.imp {R : α → Prop} {x : Session α} (hx : Yields g s P x) (h : ∀ a, P a → R a) :
    Yields g s R x :=
  fun outcomes a ha => ⟨h a (hx outcomes a ha).1, (hx outcomes a ha).2⟩

theorem Yields.throw (e : Fault) : Yields g s P (MonadExcept.throw e : Session α) :=
  fun _ _ h => nomatch h

theorem Yields.ofTask {t : Action α} (h : t.Yields g s P) : Yields g s P (ofTask t) := by
  intro outcomes a ha
  rw [run_ofTask, Program.run_bind] at ha ⊢
  obtain ⟨hP, hs⟩ := h a ha
  have hon : t.run.run g s = (.ok a, s) := Prod.ext ha hs
  exact ⟨hP, by rw [hon]; rfl⟩

theorem Yields.bind {x : Session α} {f : α → Session β} (hx : Yields g s P x)
    (hf : ∀ a, P a → Yields g s Q (f a)) : Yields g s Q (x >>= f) := by
  intro outcomes b hb
  rw [run_bind, Program.run_bind] at hb ⊢
  generalize hrun : Program.run g (x.run ⟨some outcomes⟩) s = r at hb ⊢
  obtain ⟨⟨result, memory⟩, s'⟩ := r
  cases result with
  | error e => cases hb
  | ok a =>
    obtain ⟨ha, hgives⟩ := hx outcomes a (by rw [hrun])
    rw [hrun] at hgives
    cases hgives
    exact hf a ha outcomes b hb

theorem Yields.mounted (c : Connector) {t : Action α} (h : t.Yields g s P) :
    Yields g s P (c.mounted t) := by
  intro outcomes
  rw [Connector.mounted, run_bootstrap_bind_mounted]
  exact Yields.ofTask h outcomes

/-! ## After a mounting pass -/

variable {τ : Type} {rest : Gateway τ} {h : Holdings}

/-- A pass changes nothing that the vault holds, whether or not it succeeds. -/
theorem holdings_ensureAll (backends : List Backend) (t : τ) :
    ((Backend.ensureAll backends).on (Holdings.gateway rest) (h, t)).2.1 = h :=
  Backend.holdings_of_enabling (Backend.ensureAll_asks backends) rest h t

/-- A vault is not changed by a line in the log. -/
theorem Yields.note {t : τ} (level : Level) (text : String) :
    Yields (Holdings.gateway rest) (h, t) (fun _ => True) (Session.ofTask (Action.note level text)) :=
  .of_gives (.ofTask rfl) trivial

/-- What a session gives that mounts the backends first is what it gives after that, and it leaves
the outcomes behind. -/
theorem Yields.bootstrap_bind {backends : List Backend} {f : List Backend.Outcome → Session α}
    (hf : ∀ outcomes t, Yields (Holdings.gateway rest) (h, t) P (f outcomes)) {memory : Memory}
    {t : τ} {a : α} (ha : (Program.run (Holdings.gateway rest)
      ((Session.bootstrap backends >>= f).run memory) (h, t)).1.1 = .ok a) :
    P a ∧ ∃ outcomes t', Program.run (Holdings.gateway rest)
      ((Session.bootstrap backends >>= f).run memory) (h, t) =
        ((.ok a, ⟨some outcomes⟩), (h, t')) := by
  obtain ⟨_ | outcomes⟩ := memory
  · have hrun := run_bootstrap_bind_fresh backends f
    rw [Memory.fresh] at hrun
    rw [hrun, run_note, Holdings.gateway_log, Program.run_bind] at ha ⊢
    have hheld : (Program.run (Holdings.gateway rest) (Backend.ensureAll backends).run
        (h, t)).2.1 = h := holdings_ensureAll backends t
    generalize Program.run (Holdings.gateway rest) (Backend.ensureAll backends).run (h, t) = pass
      at ha hheld ⊢
    obtain ⟨result, h', t'⟩ := pass
    subst hheld
    cases result with
    | error e => cases ha
    | ok outcomes =>
      obtain ⟨hP, hend⟩ := hf outcomes t' outcomes a ha
      exact ⟨hP, outcomes, t', hend⟩
  · rw [run_bootstrap_bind_mounted] at ha ⊢
    obtain ⟨hP, hend⟩ := hf outcomes t outcomes a ha
    exact ⟨hP, outcomes, t, hend⟩

/-! ## Windows -/

variable {ρ : Type} {page : String → Session (Page α)} (kind : Kind) (all : List ρ) (size : Nat)
  (f : List ρ → List α) (R : ρ → Prop)

/-- The page of a window of records that are all of a sort. -/
def IsWindowPage (offset : Nat) (p : Page α) : Prop :=
  ∃ batch, window all (offsetMarker offset) size = .ok batch ∧
    p = ⟨f batch.records, bookmark kind batch.next⟩ ∧ ∀ r ∈ batch.records, R r

/-- Where all pages are windows, draining them from an offset on gives what is left of the listing
or nothing. It fails where it comes to a record of another sort, or to an offset that is no word. -/
theorem Yields.drainFrom_windows (happend : ∀ xs ys, f (xs ++ ys) = f xs ++ f ys)
    (hpage : ∀ offset, Yields g s (IsWindowPage kind all size f R offset)
      (page (bookmark kind (offsetMarker offset)))) (fuel offset : Nat) :
    Yields g s (fun found => found = f (all.drop offset) ∧ ∀ r ∈ all.drop offset, R r)
      (drainFrom page fuel (bookmark kind (offsetMarker offset))) := by
  induction fuel generalizing offset with
  | zero => exact .throw stalled
  | succ fuel ih =>
    refine (hpage offset).bind fun p hp => ?_
    obtain ⟨batch, hwindow, rfl, hrecords⟩ := hp
    have hoffset : offset < Decimal.wordLimit := offset_lt_of_window hwindow
    by_cases hmore : offset + max size 1 < all.length
    · rw [window_more all size hoffset hmore] at hwindow
      cases hwindow
      have hne : bookmark kind (offsetMarker (offset + max size 1)) ≠ "" :=
        bookmark_offsetMarker_ne kind (by omega)
      rw [if_neg hne]
      split
      · exact .throw stalled
      · refine (ih (offset + max size 1)).bind fun others ⟨hothers, hrest⟩ => .pure ?_
        rw [hothers, ← happend, ← drop_eq_append, drop_eq_append all (max size 1) offset]
        exact ⟨rfl, List.forall_mem_append.mpr ⟨hrecords, hrest⟩⟩
    · rw [window_last all size hoffset (by omega)] at hwindow
      cases hwindow
      have hlast : bookmark kind (Batch.whole (all.drop offset)).next = "" := rfl
      rw [if_pos hlast]
      exact .pure ⟨rfl, hrecords⟩

/-- Windows are drained to the whole listing, if they are drained at all. -/
theorem Yields.drain_windows (happend : ∀ xs ys, f (xs ++ ys) = f xs ++ f ys)
    (hpage : ∀ offset, Yields g s (IsWindowPage kind all size f R offset)
      (page (bookmark kind (offsetMarker offset)))) :
    Yields g s (fun found => found = f all ∧ ∀ r ∈ all, R r) (drain page) := by
  have h := drainFrom_windows kind all size f R happend hpage maxPages 0
  rwa [List.drop_zero] at h

end Connector.Session

/-! ## Users -/

namespace Connector

variable {τ : Type} (rest : Gateway τ) {h : Holdings} {t : τ}

/-- A user is read as the vault has it or refused for its name. -/
theorem yields_getUser (hnodup : (h.users.map (·.1)).Nodup) {u : String × UserAnswer}
    (hu : u ∈ h.users) :
    (getUser u.1).Yields (Holdings.gateway rest) (h, t)
      (fun record => record = u.2.record u.1 ∧ Holdings.IsSegment u.1) := by
  cases hpath : Endpoint.user u.1 "" with
  | error e =>
    rw [getUser, hpath]
    exact .bind (.ofExcept (P := fun _ => False) fun _ hok => by cases hok) fun _ h => h.elim
  | ok path =>
    obtain ⟨hname, rfl⟩ := Endpoint.user_eq_ok_iff.mp hpath
    rw [String.append_empty] at hpath
    exact .of_on (on_getUser rest h t hpath (lookup_eq_some_of_mem hnodup hu)) ⟨rfl, hname⟩

variable {users : List (String × UserAnswer)}

theorem yields_getUsers (hnodup : (h.users.map (·.1)).Nodup) (husers : ∀ u ∈ users, u ∈ h.users) :
    (getUsers (users.map (·.1))).Yields (Holdings.gateway rest) (h, t)
      (fun records => records = (users.map fun u => u.2.record u.1) ∧
        ∀ u ∈ users, Holdings.IsSegment u.1) := by
  induction users with
  | nil => exact .pure ⟨rfl, List.forall_mem_nil _⟩
  | cons u users ih =>
    have hread := yields_getUser rest (t := t) hnodup (husers u List.mem_cons_self)
    have hothers := ih fun v hv => husers v (List.mem_cons_of_mem _ hv)
    refine hread.bind fun record hrecord => hothers.bind fun records hrecords => .pure ?_
    rw [hrecord.1, hrecords.1, List.map_cons]
    exact ⟨rfl, List.forall_mem_cons.mpr ⟨hrecord.2, hrecords.2⟩⟩

theorem yields_holders (hnodup : (h.users.map (·.1)).Nodup) (policy : String)
    (husers : ∀ u ∈ users, u ∈ h.users) :
    (Membership.holders policy (users.map (·.1))).Yields (Holdings.gateway rest) (h, t)
      (fun found => found = Holdings.holders policy users ∧
        ∀ u ∈ users, Holdings.IsSegment u.1) := by
  induction users with
  | nil => exact .pure ⟨rfl, List.forall_mem_nil _⟩
  | cons u users ih =>
    have hread := yields_getUser rest (t := t) hnodup (husers u List.mem_cons_self)
    have hpolicies : (userPolicies u.1).Yields (Holdings.gateway rest) (h, t)
        (fun policies => policies = u.2.data.policyList ∧ Holdings.IsSegment u.1) := by
      refine hread.bind fun record hrecord => .pure ?_
      rw [hrecord.1]
      exact ⟨rfl, hrecord.2⟩
    have hothers := ih fun v hv => husers v (List.mem_cons_of_mem _ hv)
    refine hpolicies.bind fun policies hheld => hothers.bind fun others hrest => .pure ?_
    rw [hheld.1, hrest.1]
    refine ⟨?_, List.forall_mem_cons.mpr ⟨hheld.2, hrest.2⟩⟩
    by_cases hmem : policy ∈ u.2.data.policyList
    · simp [Holdings.holders, hmem]
    · simp [Holdings.holders, hmem]

/-- A step from a bookmark hands out the page of what it fetched. -/
theorem yields_loggedPage {ρ α : Type} (kind : Kind) {fetch : Option String → Action (Batch ρ)}
    (map : ρ → α) {marker : Option String} {P : Batch ρ → Prop} (hmarker : marker ≠ some "")
    (hnext : ∀ batch, P batch → batch.next ≠ some "")
    (hfetch : (fetch marker).Yields (Holdings.gateway rest) (h, t) P) :
    (Membership.loggedPage (bookmark kind marker) kind fetch map).Yields (Holdings.gateway rest)
      (h, t) fun p => ∃ batch, P batch ∧ p = ⟨batch.records.map map, bookmark kind batch.next⟩ := by
  have hlogged : (do
      let batch ← fetch marker
      Action.note .debug "fetched page"
      return batch : Action (Batch ρ)).Yields (Holdings.gateway rest) (h, t) P :=
    hfetch.bind fun batch hbatch => .of_on (a := batch) rfl hbatch
  rw [Membership.loggedPage, listPage_bookmark kind hmarker]
  exact hlogged.bind fun batch hbatch =>
    .pure ⟨batch, hbatch, turn_bookmark kind _ map (hnext batch hbatch)⟩

/-- A page that reads what a window of the users lists is that of the window. -/
theorem yields_userPage {ρ α : Type} (size : Nat) {read : List String → Action (List ρ)}
    (found : List (String × UserAnswer) → List ρ) (map : ρ → α)
    (hread : ∀ users, (∀ u ∈ users, u ∈ h.users) →
      (read (users.map (·.1))).Yields (Holdings.gateway rest) (h, t)
        (fun records => records = found users ∧ ∀ u ∈ users, Holdings.IsSegment u.1))
    (offset : Nat) :
    (Membership.loggedPage (bookmark .user (offsetMarker offset)) .user
      (fun marker => do
        let names ← listUsers
        let window ← Action.ofExcept (window names marker size)
        let records ← read window.records
        return ⟨records, window.next⟩) map).Yields (Holdings.gateway rest) (h, t)
      (Session.IsWindowPage .user h.users size (fun users => (found users).map map)
        (Holdings.IsSegment ·.1) offset) := by
  have hfetch : (do
      let names ← listUsers
      let window ← Action.ofExcept (window names (offsetMarker offset) size)
      let records ← read window.records
      return ⟨records, window.next⟩ : Action (Batch ρ)).Yields (Holdings.gateway rest) (h, t)
        fun batch => ∃ part, window h.users (offsetMarker offset) size = .ok part ∧
          batch = ⟨found part.records, part.next⟩ ∧
          ∀ u ∈ part.records, Holdings.IsSegment u.1 := by
    refine .bind (.of_on (on_listUsers rest h t) (P := (· = h.users.map (·.1))) rfl) ?_
    rintro names rfl
    refine .bind (.ofExcept fun _ hcut => exists_of_window_map hcut) ?_
    rintro cut ⟨part, hpart, rfl⟩
    have hrecords := hread part.records (mem_of_mem_window hpart)
    refine hrecords.bind ?_
    rintro records ⟨rfl, hnamed⟩
    exact .pure ⟨part, hpart, rfl, hnamed⟩
  refine (yields_loggedPage rest .user map (offsetMarker_ne_empty offset) ?_ hfetch).imp ?_
  · rintro batch ⟨part, hpart, rfl, -⟩
    have hnext : part.next ≠ some "" := window_next_ne_empty hpart
    exact hnext
  · rintro p ⟨batch, ⟨part, hpart, rfl, hnamed⟩, rfl⟩
    exact ⟨part, hpart, rfl, hnamed⟩

/-! ## The walk -/

variable {rest}

/-- The resources of a kind are drained, for users only if all of them have names that are taken. -/
theorem yields_list (c : Connector) (hh : h.Keyed) (kind : Kind) :
    Session.Yields (Holdings.gateway rest) (h, t)
      (fun found => found = h.resources kind ∧ (kind = .user → h.WellNamed))
      (drain fun cursor => c.list kind none cursor) := by
  by_cases hkind : kind = .user
  · subst hkind
    rw [Holdings.resources_user]
    have hdrained : Session.Yields (Holdings.gateway rest) (h, t)
        (fun found => found = h.users.map Projection.ofListed ∧
          ∀ u ∈ h.users, Holdings.IsSegment u.1)
        (drain fun cursor => c.list .user none cursor) := by
      refine Session.Yields.drain_windows .user h.users c.pageSize (List.map Projection.ofListed) _
        (fun xs ys => List.map_append) fun offset => .mounted c ?_
      have hpage := yields_userPage rest (t := t) c.pageSize
        (List.map fun u : String × UserAnswer => u.2.record u.1) (Projection.ofUser · none)
        (fun users hmem => yields_getUsers rest hh.users hmem) offset
      simp only [List.map_map] at hpage
      exact hpage
    exact hdrained.imp fun found ⟨hfound, hnamed⟩ => ⟨hfound, fun _ => hnamed⟩
  · exact .of_gives (gives_list_of_ne_user c hh.mounts hh.authMethods hkind)
      ⟨rfl, fun hsame => absurd hsame hkind⟩

theorem yields_grants (c : Connector) (hh : h.Keyed) (kind : Kind) (r : Resource) :
    Session.Yields (Holdings.gateway rest) (h, t) (· = held h kind [r])
      (drain fun cursor => c.grants kind r cursor) := by
  cases kind with
  | policy =>
    have hheld : held h .policy [r] = h.grantsOf r.id := List.append_nil _
    rw [hheld]
    refine .imp (Session.Yields.drain_windows .user h.users c.pageSize
      (fun users => (Holdings.holders r.id.name users).map (Membership.grantOf r.id))
      (Holdings.IsSegment ·.1) (fun xs ys => ?_) fun offset => .mounted c ?_) fun _ h => h.1
    · rw [Holdings.holders, List.filter_append, List.map_append, List.map_append]
      rfl
    · exact yields_userPage rest c.pageSize (Holdings.holders r.id.name) (Membership.grantOf r.id)
        (fun users hmem => yields_holders rest hh.users r.id.name hmem) offset
  | _ => exact .of_gives (.drain_single (.mounted c rfl)) rfl

theorem yields_holdings (c : Connector) (hh : h.Keyed) (kind : Kind) (rs : List Resource) :
    Session.Yields (Holdings.gateway rest) (h, t) (· = (offered kind rs, held h kind rs))
      (c.holdings kind rs) := by
  induction rs with
  | nil => cases kind <;> exact .pure rfl
  | cons r rs ih =>
    have hoffers : Session.Yields (Holdings.gateway rest) (h, t) (· = offered kind [r])
        (drain fun _ => c.entitlements kind r) := .of_gives (gives_entitlements c kind r) rfl
    refine hoffers.bind fun entitlements hentitlements => ?_
    refine (yields_grants c hh kind r).bind fun grants hgrants => ?_
    refine ih.bind fun others hothers => .pure ?_
    rw [hentitlements, hgrants, hothers]
    cases kind <;> simp [offered, held]

theorem yields_syncKind (c : Connector) (hh : h.Keyed) (kind : Kind) (report : Report) :
    Session.Yields (Holdings.gateway rest) (h, t)
      (fun report' => report' = withKind h report kind ∧ (kind = .user → h.WellNamed))
      (c.syncKind kind report) := by
  refine (yields_list c hh kind).bind fun resources ⟨hresources, hnamed⟩ => ?_
  refine (Session.Yields.note _ _).bind fun _ _ => ?_
  refine (yields_holdings c hh kind resources).bind fun both hboth => .pure ⟨?_, hnamed⟩
  rw [hboth, hresources]
  rfl

theorem yields_syncKinds (c : Connector) (hh : h.Keyed) (kinds : List Kind) (report : Report) :
    Session.Yields (Holdings.gateway rest) (h, t)
      (fun report' => report' = kinds.foldl (withKind h) report ∧ (.user ∈ kinds → h.WellNamed))
      (c.syncKinds kinds report) := by
  induction kinds generalizing report with
  | nil => exact .pure ⟨rfl, fun hmem => (List.not_mem_nil hmem).elim⟩
  | cons kind kinds ih =>
    refine (yields_syncKind c hh kind report).bind fun report' ⟨hreport, hnamed⟩ => ?_
    refine (ih report').imp fun all ⟨hall, hrest⟩ => ⟨?_, fun hmem => ?_⟩
    · rw [hall, hreport, List.foldl_cons]
    · exact (List.mem_cons.mp hmem).elim (fun hsame => hnamed hsame.symm) hrest

/-- Whatever a sync reports is the graph of the vault, whether or not all backends could be enabled.
Then all users have names that the connector takes; the vault holds what it held, and the session
remembers its mounting pass. -/
theorem sync_of_report {c : Connector} (hh : h.Keyed) {memory : Memory} {report : Report}
    (hreport : c.syncResult (Holdings.gateway rest) memory (h, t) = .ok report) :
    (report = h.graph ∧ h.WellNamed) ∧
      ∃ outcomes t', Program.run (Holdings.gateway rest) (c.fullSync.run memory) (h, t) =
        ((.ok report, ⟨some outcomes⟩), (h, t')) := by
  rw [syncResult, fullSync_eq] at hreport
  rw [fullSync_eq]
  have hwalk (t' : τ) : Session.Yields (Holdings.gateway rest) (h, t')
      (fun report => report = h.graph ∧ h.WellNamed) c.walkAll := by
    refine (yields_syncKinds c hh Kind.all .empty).bind fun all hyields => ?_
    obtain ⟨hall, hnamed⟩ := hyields
    refine (Session.Yields.note _ _).bind fun _ _ => .pure ⟨?_, hnamed (by decide)⟩
    rw [hall, foldl_all]
  exact Session.Yields.bootstrap_bind (fun _ t' => hwalk t') hreport

/-- Whatever a sync reports is the graph of the vault, however the vault's users are named and
whether or not all backends could be enabled. -/
theorem graph_of_report {c : Connector} (hh : h.Keyed) {memory : Memory} {report : Report}
    (hreport : c.syncResult (Holdings.gateway rest) memory (h, t) = .ok report) :
    report = h.graph := (sync_of_report hh hreport).1.1

end Connector

end VaultAccess
