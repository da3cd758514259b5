import Mathlib.Data.List.Chain
import VaultAccess.Proofs.Connector.Drain
import VaultAccess.Proofs.Connector.Served

/-!
# Walks over a growing listing

An offset counts names; it does not name one. Where names are only added between the calls of a
walk, the names before an offset can move behind it but none comes before it unseen, so the walk
misses no name that was there from the start.
-/
namespace VaultAccess.Connector

open Vault Program Paging Text

/-- A call of a walk over users: the names that were listed to it, and the page that it gave. -/
structure UserCall where
  names : List String
  page : Page Resource

/-- That a call at a cursor was served these names and gave this page. The connector with its page
size, what its session remembers and whatever else was answered are the call's own. -/
def UserCall.Served (parent : Option ResourceId) (cursor : String) (call : UserCall) : Prop :=
  ∃ (c : Connector) (memory memory' : Memory) (xs : List Exchange) (answer : Answer),
    Plays ((c.list .user parent cursor).run memory) xs (done (.ok call.page, memory')) ∧
      ⟨.list Endpoint.users, answer⟩ ∈ xs ∧ usersIn answer = .ok call.names

/-- Calls that all succeed, each where the page before it leads, up to a page that leads nowhere. -/
inductive UserWalk (parent : Option ResourceId) : String → List UserCall → Prop
  | last {cursor : String} {call : UserCall} (hcall : call.Served parent cursor)
      (hlast : call.page.nextCursor = "") : UserWalk parent cursor [call]
  | more {cursor : String} {call : UserCall} {calls : List UserCall}
      (hcall : call.Served parent cursor) (hmore : call.page.nextCursor ≠ "")
      (hrest : UserWalk parent call.page.nextCursor calls) : UserWalk parent cursor (call :: calls)

/-! ## One call -/

/-- The users that were read have the names that were asked for. -/
theorem names_of_plays_getUsers {names : List String} {users : List UserRecord}
    {xs : List Exchange} (h : Plays (getUsers names).run xs (done (.ok users))) :
    users.map UserRecord.name = names := by
  induction names generalizing users xs with
  | nil =>
    obtain ⟨-, hnone⟩ := Action.plays_pure h
    rw [Except.ok.inj hnone, List.map_nil]
  | cons name names ih =>
    obtain ⟨user, ys, zs, rfl, hread, hothers⟩ := Action.plays_bind_ok h
    obtain ⟨others, hrest, rfl⟩ := Action.plays_map_ok hothers
    rcases Action.plays_ofExcept_bind hread with ⟨e, -, -, he⟩ | ⟨path, -, hget⟩
    · cases he
    obtain ⟨a, -, rfl⟩ := Action.plays_map_ok hget
    rw [List.map_cons, ih hrest]
    rfl

/-- A page from an offset names the window of the names that were listed to its call. -/
theorem UserCall.Served.window {parent : Option ResourceId} {offset : Nat} {call : UserCall}
    (h : call.Served parent (bookmark .user (offsetMarker offset))) :
    ∃ size batch, Paging.window call.names (offsetMarker offset) size = .ok batch ∧
      call.page.items.map Resource.id = batch.records.map (ResourceId.mk .user) ∧
      call.page.nextCursor = bookmark .user batch.next := by
  obtain ⟨c, memory, memory', xs, answer, hcall, hlisted, hnames⟩ := h
  rcases plays_mounted hcall with ⟨e, -, he⟩ | ⟨pass, own, rfl, hpass, hpage⟩
  · cases he
  obtain ⟨answer', names, batch, found, ys, rfl, hnames', hwindow, hread, hp⟩ :=
    Membership.plays_windowPage hpage
  -- Nothing but the page itself asks for a listing, so the names of the call are those it cut.
  have hsame : answer = answer' := by
    rcases List.mem_append.mp hlisted with hin | hin
    · exact absurd (hpass.method _ hin) nofun
    · rcases List.mem_cons.mp hin with heq | hin
      · exact congrArg Exchange.answer heq
      · exact absurd ((plays_getUsers hread).method _ hin) nofun
  rw [hsame, hnames'] at hnames
  obtain rfl := Except.ok.inj hnames
  refine ⟨c.pageSize, batch, hwindow, ?_, by rw [hp]⟩
  rw [hp, List.map_map, ← names_of_plays_getUsers hread, List.map_map]
  rfl

/-- A name that is listed behind an offset is on the page from there, or still listed behind the
offset to which the page leads. -/
theorem UserCall.Served.covers {parent : Option ResourceId} {offset : Nat} {call : UserCall}
    (h : call.Served parent (bookmark .user (offsetMarker offset))) {name : String}
    (hname : name ∈ call.names.drop offset) :
    ⟨.user, name⟩ ∈ call.page.items.map Resource.id ∨
      ∃ later, call.page.nextCursor = bookmark .user (offsetMarker later) ∧
        call.page.nextCursor ≠ "" ∧ name ∈ call.names.drop later := by
  obtain ⟨size, batch, hwindow, hitems, hnext⟩ := h.window
  have hoffset : offset < Decimal.wordLimit := offset_lt_of_window hwindow
  rw [hitems]
  by_cases hmore : offset + max size 1 < call.names.length
  · rw [window_more call.names size hoffset hmore] at hwindow
    cases hwindow
    rw [drop_eq_append call.names (max size 1), List.mem_append] at hname
    refine hname.imp (List.mem_map_of_mem ·) fun hbehind => ⟨_, hnext, ?_, hbehind⟩
    rw [hnext]
    exact bookmark_offsetMarker_ne .user (by omega)
  · rw [window_last call.names size hoffset (by omega)] at hwindow
    cases hwindow
    exact .inl (List.mem_map_of_mem hname)

/-! ## The walk -/

/-- What is listed behind an offset when a walk gets there is on one of its pages from there on. The
induction is on the walk: names that are added push others back, never before the offset. -/
theorem UserWalk.covers {parent : Option ResourceId} {offset : Nat} {cursor : String}
    {calls : List UserCall} (hwalk : UserWalk parent cursor calls)
    (hcursor : cursor = bookmark .user (offsetMarker offset))
    (hgrows : (calls.map UserCall.names).IsChain List.Sublist) {name : String}
    (hname : ∀ call ∈ calls.head?, name ∈ call.names.drop offset) :
    ⟨.user, name⟩ ∈ (calls.flatMap fun call => call.page.items).map Resource.id := by
  induction hwalk generalizing offset with
  | @last cursor call hcall hlast =>
    subst hcursor
    rcases hcall.covers (hname call rfl) with hhere | ⟨later, -, hmore, -⟩
    · simpa using hhere
    · exact absurd hlast hmore
  | @more cursor call calls hcall hmore hrest ih =>
    subst hcursor
    rw [List.flatMap_cons, List.map_append, List.mem_append]
    refine (hcall.covers (hname call rfl)).imp id fun ⟨later, hnext, _, hbehind⟩ => ?_
    refine ih hnext hgrows.tail fun next hhead => ?_
    obtain ⟨rest, rfl⟩ := List.head?_eq_some_iff.mp hhead
    have hsub : call.names.Sublist next.names := hgrows.rel
    exact (hsub.drop later).subset hbehind

/-- Users added during a walk never hide a user. However the calls of a walk differ in page size,
and whatever is listed to them, if each listing has the names of the one before it in order and
perhaps more, then every name of the first listing is on a page. -/
theorem users_added_hide_none {parent : Option ResourceId} {first : UserCall}
    {calls : List UserCall} (hwalk : UserWalk parent "" (first :: calls))
    (hgrows : ((first :: calls).map UserCall.names).IsChain List.Sublist) :
    ∀ name ∈ first.names,
      ⟨.user, name⟩ ∈ ((first :: calls).flatMap fun call => call.page.items).map Resource.id := by
  intro name hname
  have hstart : "" = bookmark .user (offsetMarker 0) := rfl
  refine hwalk.covers hstart hgrows fun call hcall => ?_
  obtain rfl := Option.some.inj hcall
  exact hname

/-- A page of users asks for a listing first. -/
theorem trace_listUserPage {σ : Type} (g : Gateway σ) (size offset : Nat)
    (parent : Option ResourceId) (s : σ) :
    ∃ ys, (listUserPage size parent (bookmark .user (offsetMarker offset))).run.trace g s =
      listUsers.run.trace g s ++ ys := by
  rw [listUserPage, Membership.loggedPage, listPage_bookmark .user (offsetMarker_ne_empty offset),
    Action.run_bind, trace_bind, Action.run_bind, trace_bind, Action.run_bind, trace_bind,
    List.append_assoc, List.append_assoc]
  exact ⟨_, rfl⟩

/-- A call at a vault is served the names of its users, and gives a window of them. -/
theorem UserCall.served_of_window {h : Holdings} (hnames : h.WellNamed)
    (hnodup : (h.users.map (·.1)).Nodup) {size offset : Nat}
    {batch : Batch (String × UserAnswer)}
    (hwindow : Paging.window h.users (offsetMarker offset) size = .ok batch) :
    UserCall.Served none (bookmark .user (offsetMarker offset))
      ⟨h.users.map (·.1),
        ⟨batch.records.map Projection.ofListed, bookmark .user batch.next⟩⟩ := by
  let g := Holdings.gateway Holdings.obliging
  let c : Connector := ⟨[], size⟩
  let page := listUserPage size none (bookmark .user (offsetMarker offset))
  have hpage := on_listUserPage Holdings.obliging (t := ()) hnames hnodup
    (offsetMarker_ne_empty offset) hwindow
  have hplays := plays_trace ((c.mounted page).run ⟨some []⟩) g (h, ())
  rw [Session.Gives.mounted c hpage []] at hplays
  obtain ⟨answer, htold, hlisted⟩ := plays_listUsers (plays_trace listUsers.run g (h, ()))
  have hfirst : (listUsers.run.run g (h, ())).1 = .ok (h.users.map (·.1)) :=
    congrArg Prod.fst (on_listUsers Holdings.obliging h ())
  have hmem : ⟨.list Endpoint.users, answer⟩ ∈
      Program.trace g ((c.mounted page).run ⟨some []⟩) (h, ()) := by
    have hrun : (c.mounted page).run ⟨some []⟩ = (Session.ofTask page).run ⟨some []⟩ :=
      run_bootstrap_bind_mounted [] (fun _ => Session.ofTask page) []
    obtain ⟨ys, hpagetrace⟩ := trace_listUserPage g size offset none (h, ())
    rw [hrun, Session.run_ofTask, trace_bind, hpagetrace, htold]
    exact List.mem_cons_self
  exact ⟨c, _, _, _, answer, hplays, hmem, hlisted.symm.trans hfirst⟩

/-- A vault with these users, who hold nothing. -/
def staffed (names : List String) : Holdings :=
  { Holdings.small with users := names.map fun name => (name, ⟨⟨none, none, none, none⟩, none⟩) }

/-- A call for one of these users, from an offset on and leading to another. -/
def staffCall (names : List String) (offset : Nat) (next : Option String) : UserCall where
  names
  page := ⟨(((staffed names).users.drop offset).take 1).map Projection.ofListed,
    bookmark .user next⟩

theorem served_staffCall {names : List String} (hnames : ∀ name ∈ names, Holdings.IsSegment name)
    (hnodup : names.Nodup) {offset : Nat} {next : Option String}
    (hwindow : window (staffed names).users (offsetMarker offset) 1 =
      .ok ⟨((staffed names).users.drop offset).take 1, next⟩) :
    (staffCall names offset next).Served none (bookmark .user (offsetMarker offset)) := by
  have hsame : (staffed names).users.map (·.1) = names := by
    simp [staffed, Function.comp_def]
  have hnamed : (staffed names).WellNamed := by simpa [Holdings.WellNamed, staffed] using hnames
  have hserved := UserCall.served_of_window hnamed (hsame.symm ▸ hnodup) hwindow
  rwa [hsame] at hserved

/-- A walk one by one over two users, before whom two others come in: the first is seen twice, and
the second is seen at last. -/
theorem users_added_hide_none_of_staff :
    ∃ first calls, UserWalk none "" (first :: calls) ∧
      (first :: calls).map UserCall.names =
        [["bob", "dan"], ["ada", "bob", "dan"], ["ada", "bob", "cid", "dan"],
          ["ada", "bob", "cid", "dan"]] ∧
      ((first :: calls).map UserCall.names).IsChain List.Sublist ∧
      (∀ name ∈ first.names,
        ⟨.user, name⟩ ∈ ((first :: calls).flatMap fun call => call.page.items).map Resource.id) ∧
      ((first :: calls).flatMap fun call => call.page.items).map Resource.id =
        [⟨.user, "bob"⟩, ⟨.user, "bob"⟩, ⟨.user, "cid"⟩, ⟨.user, "dan"⟩] := by
  have hsegments : ∀ name ∈ ["ada", "bob", "cid", "dan"], Holdings.IsSegment name := by
    simp [Holdings.IsSegment]
  have hserved (names : List String) (offset : Nat) (hlimit : offset < Decimal.wordLimit)
      (hnames : ∀ name ∈ names, name ∈ ["ada", "bob", "cid", "dan"]) (hnodup : names.Nodup)
      (hmore : offset + 1 < (staffed names).users.length) :
      (staffCall names offset (offsetMarker (offset + 1))).Served none
        (bookmark .user (offsetMarker offset)) :=
    served_staffCall (fun name hname => hsegments name (hnames name hname)) hnodup
      (window_more _ 1 hlimit hmore)
  have hend : window (staffed ["ada", "bob", "cid", "dan"]).users (offsetMarker 3) 1 =
      .ok ⟨((staffed ["ada", "bob", "cid", "dan"]).users.drop 3).take 1, none⟩ := by
    rw [window_last _ 1 (by decide) (by decide)]
    rfl
  have hlast : (staffCall ["ada", "bob", "cid", "dan"] 3 none).Served none
      (bookmark .user (offsetMarker 3)) := served_staffCall hsegments (by decide) hend
  have hwalk : UserWalk none "" [staffCall ["bob", "dan"] 0 (offsetMarker 1),
      staffCall ["ada", "bob", "dan"] 1 (offsetMarker 2),
      staffCall ["ada", "bob", "cid", "dan"] 2 (offsetMarker 3),
      staffCall ["ada", "bob", "cid", "dan"] 3 none] := by
    refine .more (hserved _ 0 (by decide) (by decide) (by decide) (by decide))
      (bookmark_offsetMarker_ne .user (show 0 < 1 by decide)) ?_
    refine .more (hserved _ 1 (by decide) (by decide) (by decide) (by decide))
      (bookmark_offsetMarker_ne .user (show 0 < 2 by decide)) ?_
    refine .more (hserved _ 2 (by decide) (by decide) (by decide) (by decide))
      (bookmark_offsetMarker_ne .user (show 0 < 3 by decide)) ?_
    exact .last hlast rfl
  have hgrows : [["bob", "dan"], ["ada", "bob", "dan"], ["ada", "bob", "cid", "dan"],
      ["ada", "bob", "cid", "dan"]].IsChain List.Sublist := by decide
  exact ⟨_, _, hwalk, rfl, hgrows, users_added_hide_none hwalk hgrows, rfl⟩

end VaultAccess.Connector
