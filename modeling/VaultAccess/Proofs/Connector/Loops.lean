import VaultAccess.Proofs.Connector.Drain
import VaultAccess.Proofs.Vault.Trace

/-!
# Drains without a bound

A drain asks for pages until one is the last, and stops early only at a page that fails or that
leads to itself. Nothing in it counts pages. A drain that comes to an end in so many calls is the
one that is given as many pages, and a full sync is made of such drains.
-/
namespace VaultAccess.Connector

open Vault Program Paging

variable {α β σ : Type}

/-- What a session gave is given another form without a request. -/
theorem Session.andThen_pure (f : α → β) (r : Except Fault α) (memory : Memory) :
    Session.andThen (fun a => pure (f a)) (r, memory) = done (r.map f, memory) := by
  cases r <;> rfl

/-- A page call of a drain: the cursor that it was given, and what it asked and was told. -/
structure PageCall where
  cursor : String
  exchanges : List Exchange

/-- What a session comes to: a result or a fault, what it remembers, and the gateway's state. -/
abbrev Ending (σ α : Type) := (Except Fault α × Memory) × σ

/-- The call of a page, with what it asks. -/
def pageCall (g : Gateway σ) (page : String → Session (Page α)) (cursor : String)
    (memory : Memory) (s : σ) : PageCall :=
  ⟨cursor, Program.trace g ((page cursor).run memory) s⟩

/-- The calls of a drain from a cursor on, and what it comes to. Every call is made in the memory
and at the gateway that the call before it left. -/
inductive Loop (g : Gateway σ) (page : String → Session (Page α)) :
    String → Memory → σ → List PageCall → Ending σ (List α) → Prop
  | failed {cursor : String} {memory memory' : Memory} {s s' : σ} {e : Fault}
      (hrun : Program.run g ((page cursor).run memory) s = ((.error e, memory'), s')) :
      Loop g page cursor memory s [pageCall g page cursor memory s] ((.error e, memory'), s')
  | last {cursor : String} {memory memory' : Memory} {s s' : σ} {p : Page α}
      (hrun : Program.run g ((page cursor).run memory) s = ((.ok p, memory'), s'))
      (hlast : p.nextCursor = "") :
      Loop g page cursor memory s [pageCall g page cursor memory s] ((.ok p.items, memory'), s')
  | stuck {cursor : String} {memory memory' : Memory} {s s' : σ} {p : Page α}
      (hrun : Program.run g ((page cursor).run memory) s = ((.ok p, memory'), s'))
      (hmore : p.nextCursor ≠ "") (hsame : p.nextCursor = cursor) :
      Loop g page cursor memory s [pageCall g page cursor memory s] ((.error stalled, memory'), s')
  | next {cursor : String} {memory memory' memory'' : Memory} {s s' s'' : σ} {p : Page α}
      {calls : List PageCall} {r : Except Fault (List α)}
      (hrun : Program.run g ((page cursor).run memory) s = ((.ok p, memory'), s'))
      (hmore : p.nextCursor ≠ "") (hmoved : p.nextCursor ≠ cursor)
      (hrest : Loop g page p.nextCursor memory' s' calls ((r, memory''), s'')) :
      Loop g page cursor memory s (pageCall g page cursor memory s :: calls)
        ((r.map (p.items ++ ·), memory''), s'')

namespace Loop

variable {g : Gateway σ} {page : String → Session (Page α)} {cursor : String} {memory : Memory}
  {s : σ} {calls : List PageCall} {out : Ending σ (List α)}

/-- The answers to a call say whether another follows, so there is one drain only. -/
theorem unique (h : Loop g page cursor memory s calls out) {calls' : List PageCall}
    {out' : Ending σ (List α)} (h' : Loop g page cursor memory s calls' out') :
    calls' = calls ∧ out' = out := by
  induction h generalizing calls' out' with
  | failed hrun =>
    cases h' with
    | failed hrun' =>
      cases hrun.symm.trans hrun'
      exact ⟨rfl, rfl⟩
    | last hrun' | stuck hrun' | next hrun' => cases hrun.symm.trans hrun'
  | last hrun hlast =>
    cases h' with
    | failed hrun' => cases hrun.symm.trans hrun'
    | last hrun' =>
      cases hrun.symm.trans hrun'
      exact ⟨rfl, rfl⟩
    | stuck hrun' hmore | next hrun' hmore =>
      cases hrun.symm.trans hrun'
      exact absurd hlast hmore
  | stuck hrun hmore hsame =>
    cases h' with
    | failed hrun' => cases hrun.symm.trans hrun'
    | last hrun' hlast =>
      cases hrun.symm.trans hrun'
      exact absurd hlast hmore
    | stuck hrun' =>
      cases hrun.symm.trans hrun'
      exact ⟨rfl, rfl⟩
    | next hrun' _ hmoved =>
      cases hrun.symm.trans hrun'
      exact absurd hsame hmoved
  | next hrun hmore hmoved _ ih =>
    cases h' with
    | failed hrun' => cases hrun.symm.trans hrun'
    | last hrun' hlast =>
      cases hrun.symm.trans hrun'
      exact absurd hlast hmore
    | stuck hrun' _ hsame =>
      cases hrun.symm.trans hrun'
      exact absurd hsame hmoved
    | next hrun' _ _ hrest =>
      cases hrun.symm.trans hrun'
      obtain ⟨rfl, hout⟩ := ih hrest
      cases hout
      exact ⟨rfl, rfl⟩

/-- A drain that is given a page for every call comes to the same, and asks what the calls ask. -/
theorem drainFrom (h : Loop g page cursor memory s calls out) {fuel : Nat}
    (hfuel : calls.length ≤ fuel) :
    Program.run g ((Connector.drainFrom page fuel cursor).run memory) s = out ∧
      Program.trace g ((Connector.drainFrom page fuel cursor).run memory) s =
        calls.flatMap PageCall.exchanges := by
  induction h generalizing fuel with
  | failed hrun =>
    obtain ⟨fuel, rfl⟩ := Nat.exists_eq_succ_of_ne_zero (Nat.ne_of_gt hfuel)
    rw [drainFrom_succ, Session.run_bind, Program.run_bind, trace_bind, hrun]
    exact ⟨rfl, rfl⟩
  | last hrun hlast =>
    obtain ⟨fuel, rfl⟩ := Nat.exists_eq_succ_of_ne_zero (Nat.ne_of_gt hfuel)
    rw [drainFrom_succ, Session.run_bind, Program.run_bind, trace_bind, hrun, Session.andThen_ok,
      afterPage, if_pos hlast]
    exact ⟨rfl, rfl⟩
  | stuck hrun hmore hsame =>
    obtain ⟨fuel, rfl⟩ := Nat.exists_eq_succ_of_ne_zero (Nat.ne_of_gt hfuel)
    rw [drainFrom_succ, Session.run_bind, Program.run_bind, trace_bind, hrun, Session.andThen_ok,
      afterPage, if_neg hmore, if_pos hsame]
    exact ⟨rfl, rfl⟩
  | @next cursor memory memory' memory'' s s' s'' p calls r hrun hmore hmoved _ ih =>
    rw [List.length_cons] at hfuel
    obtain ⟨fuel, rfl⟩ := Nat.exists_eq_succ_of_ne_zero (show fuel ≠ 0 by omega)
    obtain ⟨hrest, htrace⟩ := ih (Nat.le_of_succ_le_succ hfuel)
    rw [drainFrom_succ, Session.run_bind, Program.run_bind, trace_bind, hrun, Session.andThen_ok,
      afterPage, if_neg hmore, if_neg hmoved, Session.run_bind, Program.run_bind, trace_bind, hrest,
      Session.andThen_pure, htrace, trace_done, List.append_nil]
    exact ⟨rfl, rfl⟩

end Loop

/-! ## Sessions with drains that nothing bounds -/

/-- What a session may come to, from what it remembers and a state of the gateway. -/
abbrev Behaviour (σ α : Type) := Memory → σ → Ending σ α → Prop

namespace Behaviour

/-- A session comes to what its run gives. -/
def of (g : Gateway σ) (x : Session α) : Behaviour σ α :=
  fun memory s out => out = Program.run g (x.run memory) s

/-- One behaviour after the success of another. -/
def andThen (first : Behaviour σ α) (next : α → Behaviour σ β) : Behaviour σ β :=
  fun memory s out =>
    (∃ e memory' s', first memory s ((.error e, memory'), s') ∧ out = ((.error e, memory'), s')) ∨
      ∃ a memory' s', first memory s ((.ok a, memory'), s') ∧ next a memory' s' out

theorem of_andThen (g : Gateway σ) (x : Session α) (f : α → Session β) :
    (of g x).andThen (fun a => of g (f a)) = of g (x >>= f) := by
  funext memory s out
  refine propext ?_
  rw [of, Session.run_bind, Program.run_bind]
  unfold andThen of
  obtain ⟨⟨r, memory'⟩, s'⟩ := Program.run g (x.run memory) s
  constructor
  · rintro (⟨e, memory'', s'', h, rfl⟩ | ⟨a, memory'', s'', h, hnext⟩)
    · cases h
      rfl
    · cases h
      exact hnext
  · intro h
    cases r with
    | error e => exact .inl ⟨e, memory', s', rfl, h⟩
    | ok a => exact .inr ⟨a, memory', s', rfl, h⟩

end Behaviour

namespace Unbounded

open Behaviour

/-- The items of all pages, however many there are. -/
def drain (g : Gateway σ) (page : String → Session (Page α)) : Behaviour σ (List α) :=
  fun memory s out => ∃ calls, Loop g page "" memory s calls out

/-- What the resources offer and who holds it, in order. -/
def holdings (g : Gateway σ) (c : Connector) (kind : Kind) :
    List Resource → Behaviour σ (List Entitlement × List Grant)
  | [] => of g (return ([], []))
  | r :: rest =>
    (drain g fun _ => c.entitlements kind r).andThen fun offered =>
      (drain g fun cursor => c.grants kind r cursor).andThen fun held =>
        (holdings g c kind rest).andThen fun others =>
          of g (return (offered ++ others.1, held ++ others.2))

/-- Add what a kind holds to a report. -/
def syncKind (g : Gateway σ) (c : Connector) (kind : Kind) (report : Report) :
    Behaviour σ Report :=
  (drain g fun cursor => c.list kind none cursor).andThen fun resources =>
    (of g (Session.ofTask (Action.note .debug
      ("Listed " ++ toString resources.length ++ " " ++ kind.name ++ " resource(s)")))).andThen
      fun _ => (holdings g c kind resources).andThen fun held =>
        of g (return ⟨Json.insertMember kind.name resources.length report.counts,
          report.resources ++ resources, report.entitlements ++ held.1, report.grants ++ held.2⟩)

/-- Add what the kinds hold to a report. -/
def syncKinds (g : Gateway σ) (c : Connector) : List Kind → Report → Behaviour σ Report
  | [], report => of g (return report)
  | kind :: rest, report => (syncKind g c kind report).andThen (syncKinds g c rest)

/-- Mount the backends, then walk every kind. -/
def fullSync (g : Gateway σ) (c : Connector) : Behaviour σ Report :=
  (of g c.bootstrap).andThen fun _ =>
    (syncKinds g c Kind.all .empty).andThen fun report =>
      (of g (Session.ofTask (Action.note .info "Sync pass complete"))).andThen fun _ =>
        of g (return report)

end Unbounded

/-- That a drain comes to what it does with a bound on its pages. -/
def Ends (g : Gateway σ) (page : String → Session (Page α)) : Prop :=
  Unbounded.drain g page = .of g (drain page)

/-- Where the drains of a full sync end, the full sync does. -/
theorem unbounded_fullSync_eq {g : Gateway σ} {c : Connector}
    (hlist : ∀ kind, Ends g fun cursor => c.list kind none cursor)
    (hentitlements : ∀ kind r, Ends g fun _ => c.entitlements kind r)
    (hgrants : ∀ kind r, Ends g fun cursor => c.grants kind r cursor) :
    Unbounded.fullSync g c = .of g c.fullSync := by
  have hholdings (kind : Kind) (resources : List Resource) :
      Unbounded.holdings g c kind resources = .of g (c.holdings kind resources) := by
    induction resources with
    | nil => rfl
    | cons r rest ih =>
      rw [Unbounded.holdings, hentitlements kind r, hgrants kind r, ih]
      simp only [Behaviour.of_andThen]
      rfl
  have hkind (kind : Kind) (report : Report) :
      Unbounded.syncKind g c kind report = .of g (c.syncKind kind report) := by
    rw [Unbounded.syncKind, hlist kind]
    simp only [hholdings, Behaviour.of_andThen]
    rfl
  have hkinds (kinds : List Kind) (report : Report) :
      Unbounded.syncKinds g c kinds report = .of g (c.syncKinds kinds report) := by
    induction kinds generalizing report with
    | nil => rfl
    | cons kind rest ih =>
      rw [Unbounded.syncKinds, hkind, funext ih, Behaviour.of_andThen]
      rfl
  simp only [Unbounded.fullSync, hkinds, Behaviour.of_andThen]
  rfl

end VaultAccess.Connector
