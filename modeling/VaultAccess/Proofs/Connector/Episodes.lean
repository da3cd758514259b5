import VaultAccess.Proofs.Connector.Drain
import VaultAccess.Proofs.Connector.Losses
import VaultAccess.Proofs.Connector.Visits

/-!
# Episodes

What an operation asks after its mounting pass: pages of users and of holders that it walks, one
change, or requests that have nothing to do with users. A full sync walks the pages of all users,
and those of the holders of every policy, from the first page on.
-/
namespace VaultAccess.Connector

open Vault Program Paging

/-! ## Sessions that are done -/

namespace Session

variable {α β : Type} {x : Session α} {f : α → Session β}
  {H K : List Exchange → Except Fault α → Prop}

/-- Once the backends are mounted, what a session asks and what it gives satisfy `H`, and the outcomes
stay as they are. -/
def Within (H : List Exchange → Except Fault α → Prop) (x : Session α) : Prop :=
  ∀ outcomes xs r memory, Plays (x.run ⟨some outcomes⟩) xs (done (r, memory)) →
    memory = ⟨some outcomes⟩ ∧ H xs r

theorem Within.imp (hx : Within H x) (h : ∀ xs r, H xs r → K xs r) : Within K x := by
  intro outcomes xs r memory hplays
  obtain ⟨hmemory, hH⟩ := hx outcomes xs r memory hplays
  exact ⟨hmemory, h xs r hH⟩

theorem Within.pure {a : α} (h : H [] (.ok a)) : Within H (Pure.pure a) := by
  intro outcomes xs r memory hplays
  cases hplays
  exact ⟨rfl, h⟩

theorem Within.throw {e : Fault} (h : H [] (.error e)) : Within H (MonadExcept.throw e) := by
  intro outcomes xs r memory hplays
  cases hplays
  exact ⟨rfl, h⟩

theorem Within.ofTask {t : Action α} (h : ∀ xs r, Plays t.run xs (done r) → H xs r) :
    Within H (Session.ofTask t) := by
  intro outcomes xs r memory hplays
  rw [run_ofTask] at hplays
  obtain ⟨rt, ys, zs, rfl, ht, hdone⟩ := hplays.of_bind_done
  cases hdone
  exact ⟨rfl, by rw [List.append_nil]; exact h _ _ ht⟩

theorem Within.bind {K : α → List Exchange → Except Fault β → Prop} (hx : Within H x)
    (hf : ∀ a, Within (K a) (f a)) :
    Within (fun xs r => (∃ e, H xs (.error e) ∧ r = .error e) ∨
      ∃ a ys zs, xs = ys ++ zs ∧ H ys (.ok a) ∧ K a zs r) (x >>= f) := by
  intro outcomes xs r memory hplays
  rw [run_bind] at hplays
  obtain ⟨⟨rx, memory'⟩, ys, zs, rfl, hfirst, hrest⟩ := hplays.of_bind_done
  obtain ⟨rfl, hH⟩ := hx outcomes ys rx memory' hfirst
  cases rx with
  | error e =>
    cases hrest
    exact ⟨rfl, .inl ⟨e, by rwa [List.append_nil], rfl⟩⟩
  | ok a =>
    obtain ⟨hmemory, hK⟩ := hf a outcomes zs r memory hrest
    exact ⟨hmemory, .inr ⟨a, ys, zs, rfl, hH, hK⟩⟩

theorem Within.throw_bind {e : Fault} {J : List Exchange → Except Fault β → Prop}
    (h : J [] (.error e)) : Within J (MonadExcept.throw e >>= f) := by
  intro outcomes xs r memory hplays
  rw [run_bind] at hplays
  cases hplays
  exact ⟨rfl, h⟩

theorem Within.map {g : α → β} (hx : Within H x) :
    Within (fun xs r => ∃ rx, H xs rx ∧ r = rx.map g) (x >>= fun a => Pure.pure (g a)) := by
  refine .imp (.bind hx fun a => .pure (H := fun ys r => ys = [] ∧ r = .ok (g a)) ⟨rfl, rfl⟩) ?_
  rintro xs r (⟨e, hH, rfl⟩ | ⟨a, ys, zs, rfl, hH, rfl, rfl⟩)
  · exact ⟨_, hH, rfl⟩
  · exact ⟨_, by rwa [List.append_nil], rfl⟩

theorem Within.of_asks {P : Request → Prop} (hx : Asks P x) :
    Within (fun xs _ => ∀ y ∈ xs, P y.request) x := by
  intro outcomes xs r memory hplays
  obtain ⟨hxs, hdone⟩ := (hx outcomes).plays hplays
  exact ⟨hdone, hxs⟩

theorem Within.mounted (c : Connector) {t : Action α}
    (h : ∀ xs r, Plays t.run xs (done r) → H xs r) : Within H (c.mounted t) := by
  intro outcomes xs r memory hplays
  have hrun : (c.mounted t).run ⟨some outcomes⟩ = (Session.ofTask t).run ⟨some outcomes⟩ :=
    run_bootstrap_bind_mounted c.backends (fun _ => Session.ofTask t) outcomes
  rw [hrun] at hplays
  exact Within.ofTask h outcomes xs r memory hplays

end Session

/-! ## Walks over pages -/

/-- What the walk over pages asks, where a page does as `P` says of its cursor and the next. -/
inductive Drained (P : String → List Exchange → Except Fault String → Prop) :
    Nat → String → List Exchange → Except Fault Unit → Prop
  | exhausted {cursor : String} : Drained P 0 cursor [] (.error stalled)
  | failed {fuel : Nat} {cursor : String} {xs : List Exchange} {e : Fault}
      (h : P cursor xs (.error e)) : Drained P (fuel + 1) cursor xs (.error e)
  | last {fuel : Nat} {cursor : String} {xs : List Exchange} (h : P cursor xs (.ok "")) :
      Drained P (fuel + 1) cursor xs (.ok ())
  | stuck {fuel : Nat} {cursor : String} {xs : List Exchange} (h : P cursor xs (.ok cursor))
      (hmore : cursor ≠ "") : Drained P (fuel + 1) cursor xs (.error stalled)
  | next {fuel : Nat} {cursor later : String} {xs ys : List Exchange} {r : Except Fault Unit}
      (h : P cursor xs (.ok later)) (hmore : later ≠ "") (hmoved : later ≠ cursor)
      (hrest : Drained P fuel later ys r) : Drained P (fuel + 1) cursor (xs ++ ys) r

theorem within_drainFrom {α : Type} {P : String → List Exchange → Except Fault String → Prop}
    {page : String → Session (Page α)}
    (hpage : ∀ cursor, Session.Within (fun xs r => P cursor xs (r.map Page.nextCursor))
      (page cursor)) (fuel : Nat) (cursor : String) :
    Session.Within (fun xs r => Drained P fuel cursor xs (r.map fun _ => ()))
      (drainFrom page fuel cursor) := by
  induction fuel generalizing cursor with
  | zero => exact .throw .exhausted
  | succ fuel ih =>
    have hrest (p : Page α) : Session.Within (fun ys r => ∀ xs, P cursor xs (.ok p.nextCursor) →
        Drained P (fuel + 1) cursor (xs ++ ys) (r.map fun _ => ()))
        (afterPage page fuel cursor p) := by
      unfold afterPage
      split
      · next hend =>
        refine .pure fun xs h => ?_
        rw [List.append_nil]
        exact .last (hend ▸ h)
      · next hmore =>
        split
        · next hsame =>
          refine .throw_bind fun xs h => ?_
          rw [List.append_nil]
          exact .stuck (hsame ▸ h) (hsame ▸ hmore)
        · next hmoved =>
          refine .imp (.map (ih p.nextCursor)) ?_
          rintro ys r ⟨rest, hrest, rfl⟩ xs h
          have hnext := Drained.next h hmore hmoved hrest
          cases rest <;> exact hnext
    refine .imp (.bind (hpage cursor) hrest) ?_
    rintro xs r (⟨e, h, rfl⟩ | ⟨p, ys, zs, rfl, h, hr⟩)
    · exact .failed h
    · exact hr ys h

/-! ## Requests about anything else -/

/-- A request at a fixed path other than that of the users. -/
def IsElsewhere (r : Request) : Prop := r.path ∈ Endpoint.fixed ∧ r.path ≠ Endpoint.users

instance (r : Request) : Decidable (IsElsewhere r) := inferInstanceAs (Decidable (_ ∧ _))

theorem listRoles_elsewhere (source : RoleSource) : (listRoles source).Asks IsElsewhere := by
  refine .bind ?_ fun _ => .pure _
  cases source <;> exact listKeys_asks (by decide)

theorem listRolePage_elsewhere (parent : Option ResourceId) (cursor : String) :
    (listRolePage parent cursor).Asks IsElsewhere := by
  refine Membership.loggedPage_asks _ _ (fun marker => ?_) _
  exact .bind (.ofExcept _) fun _ => .bind (listRoles_elsewhere _) fun _ => .pure _

/-- No kind but the users is listed from the users. -/
theorem listKind_elsewhere (c : Connector) {kind : Kind} (hkind : kind ≠ .user)
    (parent : Option ResourceId) (cursor : String) :
    (c.listKind kind parent cursor).Asks IsElsewhere := by
  have hvalue {α : Type} {decode : Json → Except Mismatch α} {path : String}
      {β : Type} {f : α → β} (hpath : IsElsewhere (.get path)) :
      Action.Asks IsElsewhere (getValue decode path >>= fun a => return f a) :=
    .bind (getValue_asks decode hpath) fun _ => .pure _
  have hkeys {path : String} {β : Type} {f : Listing → β} (hpath : IsElsewhere (.list path)) :
      Action.Asks IsElsewhere (listKeys path >>= fun listing => return f listing) :=
    .bind (listKeys_asks hpath) fun _ => .pure _
  cases kind with
  | user => exact absurd rfl hkind
  | role => exact listRolePage_elsewhere parent cursor
  | policy => exact wholeListing_asks _ (hvalue (by decide)) _ _ _
  | secret => exact wholeListing_asks _ (hvalue (by decide)) _ _ _
  | authMethod => exact wholeListing_asks _ (hvalue (by decide)) _ _ _
  | group => exact wholeListing_asks _ (hkeys (by decide)) _ _ _
  | entity => exact wholeListing_asks _ (hkeys (by decide)) _ _ _

/-- Holders are looked for where policies are held. -/
theorem grantsOf_elsewhere (c : Connector) {kind : Kind} (hkind : kind ≠ .policy) (r : Resource)
    (cursor : String) : (c.grantsOf kind r cursor).Asks IsElsewhere := by
  cases kind with
  | policy => exact absurd rfl hkind
  | _ => exact .pure _

theorem validate_elsewhere : validate.Asks IsElsewhere := by
  have hlift : Action.Asks IsElsewhere (ExceptT.lift lookupSelf.run) := by
    rw [Action.Asks, Action.run_lift]
    have hvalue : lookupSelf.Asks IsElsewhere := getValue_asks _ (by decide)
    exact Obeys.bind hvalue fun _ _ => trivial
  refine .bind hlift fun accepted => ?_
  cases accepted with
  | ok value => exact .note _ _
  | error e => exact .bind (.note _ _) fun _ => .throw e

/-! ## The full sync -/

/-- What a full sync asks: requests about anything else, and walks over all pages of users or of
holders, each after the success of those before. -/
inductive Sweep (size : Nat) : List Exchange → Except Fault Unit → Prop
  | elsewhere {xs : List Exchange} {r : Except Fault Unit}
      (h : ∀ x ∈ xs, IsElsewhere x.request) : Sweep size xs r
  | users {xs : List Exchange} {r : Except Fault Unit}
      (h : Drained (UserPage size) maxPages "" xs r) : Sweep size xs r
  | andThen {xs ys : List Exchange} {r : Except Fault Unit} (h : Sweep size xs (.ok ()))
      (hrest : Sweep size ys r) : Sweep size (xs ++ ys) r

namespace Session

variable {α β : Type} {size : Nat}

/-- That a session sweeps. -/
def Sweeps (size : Nat) (x : Session α) : Prop :=
  Within (fun xs r => Sweep size xs (r.map fun _ => ())) x

theorem Sweeps.of_asks {x : Session α} (hx : Asks IsElsewhere x) : Sweeps size x :=
  .imp (.of_asks hx) fun _ _ h => .elsewhere h

theorem Sweeps.bind {x : Session α} {f : α → Session β} (hx : Sweeps size x)
    (hf : ∀ a, Sweeps size (f a)) : Sweeps size (x >>= f) := by
  refine .imp (Within.bind hx hf) ?_
  rintro xs r (⟨e, h, rfl⟩ | ⟨a, ys, zs, rfl, h, hrest⟩)
  · exact h
  · exact .andThen h hrest

theorem Sweeps.pure (a : α) : Sweeps size (Pure.pure a) := .of_asks (.pure a)

theorem Sweeps.drain {page : String → Session (Page α)}
    (hpage : ∀ cursor, Within (fun xs r => UserPage size cursor xs (r.map Page.nextCursor))
      (page cursor)) : Sweeps size (drain page) :=
  .imp (within_drainFrom hpage maxPages "") fun _ _ h => .users h

end Session

theorem list_sweeps (c : Connector) (kind : Kind) :
    Session.Sweeps c.pageSize (drain fun cursor => c.list kind none cursor) := by
  by_cases hkind : kind = .user
  · subst hkind
    exact .drain fun cursor => .mounted c fun _ _ h => plays_listUserPage h
  · exact .of_asks (drain_asks fun cursor => mounted_asks c (listKind_elsewhere c hkind none cursor))

theorem grants_sweeps (c : Connector) (kind : Kind) (r : Resource) :
    Session.Sweeps c.pageSize (drain fun cursor => c.grants kind r cursor) := by
  by_cases hkind : kind = .policy
  · subst hkind
    exact .drain fun cursor => .mounted c fun _ _ h => Membership.plays_grants h
  · exact .of_asks (drain_asks fun cursor => mounted_asks c (grantsOf_elsewhere c hkind r cursor))

theorem holdings_sweeps (c : Connector) (kind : Kind) (resources : List Resource) :
    Session.Sweeps c.pageSize (c.holdings kind resources) := by
  induction resources with
  | nil => exact .pure _
  | cons r rest ih =>
    have hoffered : Session.Sweeps c.pageSize (drain fun _ => c.entitlements kind r) :=
      .of_asks (drain_asks fun _ => mounted_asks c (.pure (entitlementsOf kind r)))
    exact .bind hoffered fun _ => .bind (grants_sweeps c kind r) fun _ => .bind ih fun _ => .pure _

theorem syncKinds_sweeps (c : Connector) (kinds : List Kind) (report : Report) :
    Session.Sweeps c.pageSize (c.syncKinds kinds report) := by
  induction kinds generalizing report with
  | nil => exact .pure _
  | cons kind rest ih =>
    have hkind : Session.Sweeps c.pageSize (c.syncKind kind report) :=
      .bind (list_sweeps c kind) fun _ => .bind (.of_asks (.ofTask (.note _ _))) fun _ =>
        .bind (holdings_sweeps c kind _) fun _ => .pure _
    exact .bind hkind fun _ => ih _

theorem walkAll_sweeps (c : Connector) : Session.Sweeps c.pageSize c.walkAll :=
  .bind (syncKinds_sweeps c _ _) fun _ => .bind (.of_asks (.ofTask (.note _ _))) fun _ => .pure _

/-! ## Operations -/

/-- What an operation asks once the backends are mounted, and what it comes to. -/
def Own (c : Connector) (op : Operation) (xs : List Exchange) (r : Except Fault Unit) : Prop :=
  match op with
  | .list .user _ cursor | .grants .policy _ cursor =>
    ∃ next, UserPage c.pageSize cursor xs next ∧ r = next.map fun _ => ()
  | .sync => Sweep c.pageSize xs r
  | op =>
    match op.change? with
    | some (change, user, policy) => Membership.Alters change user policy xs r
    | none => ∀ x ∈ xs, IsElsewhere x.request

/-- An operation with what it asked and what it came to. -/
structure Episode where
  op : Operation
  exchanges : List Exchange
  result : Except Fault Unit

/-- Operations in order, in one session. -/
def chronicle {σ : Type} (c : Connector) (g : Gateway σ) :
    List Operation → Memory → σ → List Episode
  | [], _, _ => []
  | op :: ops, memory, s =>
    let p := (op.session c).run memory
    ⟨op, Program.trace g p s, (p.run g s).1.1⟩ :: chronicle c g ops (p.run g s).1.2 (p.run g s).2

/-- That an operation ends with the fault of its mounting pass, or does what is its own after a pass
that succeeds or is none. -/
def Follows (c : Connector) (e : Episode) : Prop :=
  (∃ fault, Backend.Pass c.backends e.exchanges (.error fault) ∧ e.result = .error fault) ∨
    ∃ pass own, e.exchanges = pass ++ own ∧
      (pass = [] ∨ ∃ outcomes, Backend.Pass c.backends pass (.ok outcomes)) ∧
      c.Own e.op own e.result

variable {σ : Type}

theorem follows_of_within {c : Connector} {op : Operation} {f : List Backend.Outcome → Session Unit}
    (hf : ∀ outcomes, Session.Within (c.Own op) (f outcomes)) (memory : Memory) (g : Gateway σ)
    (s : σ) :
    c.Follows ⟨op, Program.trace g ((Session.bootstrap c.backends >>= f).run memory) s,
      (Program.run g ((Session.bootstrap c.backends >>= f).run memory) s).1.1⟩ := by
  rcases run_bootstrap_bind_cases c.backends f memory g s with
    ⟨pass, e, hpass, htrace, hresult⟩ | ⟨pass, outcomes, s', hpass, htrace, hresult⟩
  · exact .inl ⟨e, by rw [htrace]; exact hpass, hresult⟩
  · have hown := (hf outcomes outcomes _ _ _ (plays_trace _ g s')).2
    refine .inr ⟨pass, _, htrace, ?_, by rw [hresult]; exact hown⟩
    rcases hpass with hpass | ⟨rfl, -⟩
    · exact .inr ⟨outcomes, hpass⟩
    · exact .inl rfl

/-- A task whose result is not used. -/
theorem follows_of_mounted {α : Type} {c : Connector} {op : Operation} {t : Action α}
    (ht : ∀ xs r, Plays t.run xs (done r) → c.Own op xs (r.map fun _ => ())) (memory : Memory)
    (g : Gateway σ) (s : σ) :
    c.Follows ⟨op, Program.trace g ((Operation.ignore (c.mounted t)).run memory) s,
      (Program.run g ((Operation.ignore (c.mounted t)).run memory) s).1.1⟩ := by
  have hassoc : Operation.ignore (c.mounted t) = Session.bootstrap c.backends >>= fun _ =>
      Operation.ignore (Session.ofTask t) := bind_assoc _ _ _
  rw [hassoc]
  refine follows_of_within (fun _ => .imp (.map (.ofTask ht)) ?_) memory g s
  rintro xs r ⟨rx, hown, rfl⟩
  exact hown

theorem plays_of_asks {α : Type} {P : Request → Prop} {t : Action α} (ht : t.Asks P)
    {xs : List Exchange} {r : Except Fault α} (h : Plays t.run xs (done r)) :
    ∀ x ∈ xs, P x.request := (Obeys.plays ht h).1

/-- What a change through a kind asks, if it is a change at all. -/
theorem plays_changeOn {change : Change} {kind : Kind} {principal entitlement : ResourceId}
    {xs : List Exchange} {r : Except Fault Unit}
    (h : Plays (changeOn change kind principal entitlement).run xs (done r)) :
    match Connector.change? change kind principal entitlement with
    | some (change, user, policy) => Membership.Alters change user policy xs r
    | none => ∀ x ∈ xs, IsElsewhere x.request := by
  by_cases hmade : kind = .policy ∧ principal.kind = .user ∧ entitlement.kind = .policy
  · rw [change?, if_pos hmade]
    obtain ⟨rfl, hprincipal, hentitlement⟩ := hmade
    have hrun := Membership.run_perform change hprincipal hentitlement
    exact Membership.plays_underLock (hrun ▸ h)
  · rw [change?, if_neg hmade]
    exact fun x hx => (((changeOn_refuses change kind hmade).plays h).1 x hx).elim

theorem follows_of_change (c : Connector) (op : Operation) (change : Change) (kind : Kind)
    (principal entitlement : ResourceId)
    (hown : ∀ xs r, (match Connector.change? change kind principal entitlement with
      | some (change, user, policy) => Membership.Alters change user policy xs r
      | none => ∀ x ∈ xs, IsElsewhere x.request) → c.Own op xs r)
    (memory : Memory) (g : Gateway σ) (s : σ) :
    c.Follows ⟨op,
      Program.trace g ((c.mounted (changeOn change kind principal entitlement)).run memory) s,
      (Program.run g
        ((c.mounted (changeOn change kind principal entitlement)).run memory) s).1.1⟩ :=
  follows_of_within (fun _ => .ofTask fun xs r h => hown xs r (plays_changeOn h)) memory g s

/-- Whatever a vault answers, an operation asks what is its own after its pass. -/
theorem follows_session (c : Connector) (op : Operation) (memory : Memory) (g : Gateway σ) (s : σ) :
    c.Follows ⟨op, Program.trace g ((op.session c).run memory) s,
      (Program.run g ((op.session c).run memory) s).1.1⟩ := by
  cases op with
  | bootstrap =>
    have hnothing : c.Own .bootstrap [] (.ok ()) := fun _ hx => (List.not_mem_nil hx).elim
    exact follows_of_within (fun _ => .pure hnothing) memory g s
  | validate =>
    refine .inr ⟨[], _, rfl, .inl rfl, ?_⟩
    have hasks : Obeys IsElsewhere (fun _ => True) ((Session.ofTask validate).run memory) :=
      Obeys.bind validate_elsewhere fun _ _ => trivial
    exact hasks.trace g s
  | list kind parent cursor =>
    refine follows_of_mounted (fun xs r h => ?_) memory g s
    cases kind with
    | user => exact ⟨_, plays_listUserPage h, by cases r <;> rfl⟩
    | _ => exact plays_of_asks (listKind_elsewhere c (by decide) parent cursor) h
  | entitlements kind r =>
    refine follows_of_mounted (fun xs r h => ?_) memory g s
    have hnothing : ∀ x ∈ xs, IsElsewhere x.request := plays_of_asks (.pure _) h
    exact hnothing
  | grants kind r cursor =>
    refine follows_of_mounted (fun xs r h => ?_) memory g s
    cases kind with
    | policy => exact ⟨_, Membership.plays_grants h, by cases r <;> rfl⟩
    | _ => exact plays_of_asks (grantsOf_elsewhere c (by decide) _ cursor) h
  | sync =>
    have hassoc : Operation.ignore c.fullSync = Session.bootstrap c.backends >>= fun _ =>
        Operation.ignore c.walkAll := bind_assoc _ _ _
    have hsweeps : Session.Within (c.Own .sync) (Operation.ignore c.walkAll) := by
      refine .imp (.map (walkAll_sweeps c)) ?_
      rintro xs r ⟨rx, hsweep, rfl⟩
      exact hsweep
    rw [Operation.session, hassoc]
    exact follows_of_within (fun _ => hsweeps) memory g s
  | grant principal e =>
    have hchange := follows_of_change c (.grant principal e) .grant e.resource.kind principal
      e.resource (fun _ _ h => h) memory g s
    rwa [← grantOn_eq_changeOn] at hchange
  | revoke held =>
    have hchange := follows_of_change c (.revoke held) .revoke held.entitlement.kind held.principal
      held.entitlement (fun _ _ h => h) memory g s
    rwa [← revokeOn_eq_changeOn] at hchange
  | grantVia kind principal e =>
    have hchange := follows_of_change c (.grantVia kind principal e) .grant kind principal
      e.resource (fun _ _ h => h) memory g s
    rwa [← grantOn_eq_changeOn] at hchange
  | revokeVia kind held =>
    have hchange := follows_of_change c (.revokeVia kind held) .revoke kind held.principal
      held.entitlement (fun _ _ h => h) memory g s
    rwa [← revokeOn_eq_changeOn] at hchange

/-- Every episode of a session follows from its operation. -/
theorem follows_chronicle (c : Connector) (g : Gateway σ) (ops : List Operation) (memory : Memory)
    (s : σ) :
    (c.chronicle g ops memory s).map Episode.op = ops ∧
      ∀ e ∈ c.chronicle g ops memory s, c.Follows e := by
  induction ops generalizing memory s with
  | nil => exact ⟨rfl, fun e he => (List.not_mem_nil he).elim⟩
  | cons op ops ih =>
    obtain ⟨hops, hfollows⟩ := ih ((op.session c).run memory |>.run g s).1.2
      ((op.session c).run memory |>.run g s).2
    refine ⟨?_, fun e he => ?_⟩
    · rw [chronicle, List.map_cons, hops]
    · rcases List.mem_cons.mp he with rfl | he
      · exact follows_session c op memory g s
      · exact hfollows e he

end VaultAccess.Connector
