import VaultAccess.Proofs.Connector.Episodes

/-!
# What a page was served

A page that was handed out tells what was answered to its call: after the mounting pass, if there
was one, names were listed, and the page is about a window of them that starts where its cursor
says.
-/
namespace VaultAccess

open Vault Program Paging Text

/-! ## Calls that succeed -/

namespace Vault.Action

variable {α β : Type} {a : Action α} {f : α → Action β} {xs : List Exchange} {b : β}

/-- A sequence that succeeds has succeeded in both parts. -/
theorem plays_bind_ok (h : Plays (a >>= f).run xs (done (.ok b))) :
    ∃ x ys zs, xs = ys ++ zs ∧ Plays a.run ys (done (.ok x)) ∧
      Plays (f x).run zs (done (.ok b)) := by
  rcases plays_bind h with ⟨e, -, he⟩ | hparts
  · cases he
  · exact hparts

theorem plays_map_ok {g : α → β} (h : Plays (a >>= fun x => pure (g x)).run xs (done (.ok b))) :
    ∃ x, Plays a.run xs (done (.ok x)) ∧ b = g x := by
  obtain ⟨r, ha, hr⟩ := plays_map h
  cases r with
  | error e => cases hr
  | ok x => exact ⟨x, ha, Except.ok.inj hr⟩

end Vault.Action

namespace Connector

variable {α : Type} {c : Connector} {memory memory' : Memory} {xs : List Exchange}

/-- A mounted task fails with its mounting pass, or has run after one that succeeded or is none. -/
theorem plays_mounted {t : Action α} {r : Except Fault α}
    (h : Plays ((c.mounted t).run memory) xs (done (r, memory'))) :
    (∃ e, Backend.Pass c.backends xs (.error e) ∧ r = .error e) ∨
      ∃ pass own, xs = pass ++ own ∧ IsPass c.backends pass ∧ Plays t.run own (done r) := by
  obtain ⟨_ | outcomes⟩ := memory
  · have hrun := run_bootstrap_bind_fresh c.backends fun _ => Session.ofTask t
    rw [Memory.fresh] at hrun
    rw [mounted, hrun] at h
    cases h with
    | note h =>
    obtain ⟨result, pass, own, rfl, hpass, hrest⟩ := h.of_bind_done
    cases result with
    | error e =>
      cases hrest
      exact .inl ⟨e, by rw [List.append_nil]; exact Backend.pass_of_plays hpass, rfl⟩
    | ok outcomes =>
      obtain ⟨-, hown⟩ := Session.Within.ofTask
        (H := fun xs r => Plays t.run xs (done r)) (fun _ _ h => h) outcomes _ _ _ hrest
      exact .inr ⟨pass, own, rfl, .of_pass (Backend.pass_of_plays hpass), hown⟩
  · obtain ⟨-, hown⟩ := Session.Within.mounted c
      (H := fun xs r => Plays t.run xs (done r)) (fun _ _ h => h) outcomes _ _ _ h
    exact .inr ⟨[], xs, rfl, .nil _, hown⟩

end Connector

/-! ## Windows of users -/

namespace Membership

variable {ρ α : Type} {size offset : Nat} {xs : List Exchange} {p : Page α}

/-- A page that was handed out is that of the batch at the marker of its bookmark. -/
theorem plays_bookmarked {kind : Kind} {marker : Option String}
    {fetch : Option String → Action (Batch ρ)} {map : ρ → α} (hmarker : marker ≠ some "")
    (h : Plays (loggedPage (bookmark kind marker) kind fetch map).run xs (done (.ok p))) :
    ∃ batch, Plays (fetch marker).run xs (done (.ok batch)) ∧
      p = turn ⟨[⟨kind, marker.getD ""⟩]⟩ map batch := by
  have hopen := openCursor_bookmark kind marker
  rcases plays_loggedPage h with ⟨e, -, -, he⟩ | ⟨c, batch, hc, hfetch, hp⟩
  · cases he
  cases batch with
  | error e => cases hp
  | ok batch =>
    cases hopen.symm.trans hc
    have hsame : Frame.marker? ⟨kind, marker.getD ""⟩ = marker := marker?_getD kind hmarker
    exact ⟨batch, hsame ▸ hfetch, Except.ok.inj hp⟩

/-- A page that does something with a window of the users, asked for from an offset, did that with
the window of the names that were listed to it. It leads where the window ends. -/
theorem plays_windowPage {f : List String → Action (List ρ)} {map : ρ → α}
    (h : Plays (loggedPage (bookmark .user (offsetMarker offset)) .user (fun marker => do
      let names ← listUsers
      let window ← Action.ofExcept (window names marker size)
      let found ← f window.records
      return ⟨found, window.next⟩) map).run xs (done (.ok p))) :
    ∃ answer names batch found ys, xs = ⟨.list Endpoint.users, answer⟩ :: ys ∧
      usersIn answer = .ok names ∧ window names (offsetMarker offset) size = .ok batch ∧
      Plays (f batch.records).run ys (done (.ok found)) ∧
      p = ⟨found.map map, bookmark .user batch.next⟩ := by
  obtain ⟨fetched, hfetch, rfl⟩ := plays_bookmarked (offsetMarker_ne_empty offset) h
  obtain ⟨names, ys, zs, rfl, hlist, hwindow⟩ := Action.plays_bind_ok hfetch
  obtain ⟨answer, rfl, hnames⟩ := plays_listUsers hlist
  rcases Action.plays_ofExcept_bind hwindow with ⟨e, -, -, he⟩ | ⟨batch, hbatch, hread⟩
  · cases he
  obtain ⟨found, hfound, rfl⟩ := Action.plays_map_ok hread
  have hnext : batch.next ≠ some "" := window_next_ne_empty hbatch
  refine ⟨answer, names, batch, found, zs, rfl, hnames.symm, hbatch, hfound, ?_⟩
  exact turn_bookmark .user _ map hnext

end Membership

/-- The reading of users asks for no listing. -/
theorem Vault.Visits.method {names : List String} {xs : List Exchange} {r : Except Fault Unit}
    (h : Visits names xs r) : ∀ x ∈ xs, x.request.method = .get := by
  have hvisit {name : String} {ys : List Exchange} {r : Except Fault Unit} (h : Visit name ys r) :
      ∀ y ∈ ys, y.request.method = .get := by
    intro y hy
    cases h with
    | refused _ => cases hy
    | asked _ answer => exact List.mem_singleton.mp hy ▸ rfl
  induction h with
  | nil => exact fun x hx => (List.not_mem_nil hx).elim
  | failed h => exact hvisit h
  | next h _ ih =>
    intro x hx
    rcases List.mem_append.mp hx with hx | hx
    · exact hvisit h x hx
    · exact ih x hx

/-- A mounting pass asks for no listing. -/
theorem Connector.IsPass.method {backends : List Backend} {pass : List Exchange}
    (h : IsPass backends pass) : ∀ x ∈ pass, x.request.method = .post := by
  intro x hx
  obtain ⟨b, -, hb⟩ := List.mem_map.mp (h.mem_enabling x hx)
  exact hb ▸ rfl

end VaultAccess
