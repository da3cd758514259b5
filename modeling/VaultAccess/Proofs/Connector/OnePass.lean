import VaultAccess.Proofs.Connector.Callers

/-!
# Bootstrap first, and once

What the discipline of callers comes to. Passes come before everything but the looking up of the
token; a pass that fails ends its call and leaves nothing behind; and after the pass that succeeds
no backend is enabled again, and every call is answered as if there were no passes.
-/
namespace VaultAccess.Connector.Callers

open Vault Program

variable {σ : Type} {c : Connector} {g : Nat → Gateway σ} {s s' : Callers σ} {i : Nat}
  {call : Call} {stage : Stage} {memory : Memory} {xs : List Exchange}

/-! ## Calls that return -/

/-- That a caller, when only it takes steps, comes to its end. -/
def Finishes (c : Connector) (g : Nat → Gateway σ) (s : Callers σ) (i : Nat) (call : Call) : Prop :=
  ∃ n s' result, steps c g s (List.replicate n i) = some s' ∧
    s'.callers[i]? = some ⟨call, .done result⟩

theorem Finishes.of_step (hstep : step c (g i) s i = some s') (h : Finishes c g s' i call) :
    Finishes c g s i call := by
  obtain ⟨n, t, result, hsteps, hdone⟩ := h
  refine ⟨n + 1, t, result, ?_, hdone⟩
  rw [List.replicate_succ, steps_cons, hstep]
  exact hsteps

/-- A caller that went to another stage is at that stage. -/
theorem getElem?_setStage_self (hd : s.callers[i]? = some ⟨call, stage⟩) (stage' : Stage) :
    (s.setStage i stage').callers[i]? = some ⟨call, stage'⟩ := by
  rw [getElem?_setStage hd, if_pos rfl]

theorem finishes_done {result : Except Fault Reply}
    (hd : s.callers[i]? = some ⟨call, .done result⟩) : Finishes c g s i call :=
  ⟨0, s, result, rfl, hd⟩

theorem finishes_running {rest : Program (Except Fault Reply)}
    (hd : s.callers[i]? = some ⟨call, .running rest⟩) : Finishes c g s i call := by
  induction rest generalizing s with
  | done result =>
    have hstep : step c (g i) s i = some (s.setStage i (.done result)) := by simp [step, hd]
    exact .of_step hstep (finishes_done (getElem?_setStage_self hd _))
  | ask r next ih =>
    have hstep : step c (g i) s i = some ((s.asked (g i) i r).setStage i
        (.running (next ((g i).answer r s.vault).1))) := by simp [step, hd]
    exact .of_step hstep (ih _ (getElem?_setStage_self (s := s.asked (g i) i r) hd _))
  | note line next ih =>
    have hstep : step c (g i) s i = some ({ s with vault := (g i).log line s.vault }.setStage i
        (.running next)) := by simp [step, hd]
    exact .of_step hstep (ih (getElem?_setStage_self (s := { s with vault := _ }) hd _))

theorem finishes_mounting {rest : Program (Except Fault (List Backend.Outcome) × Memory)}
    (hd : s.callers[i]? = some ⟨call, .mounting rest⟩) : Finishes c g s i call := by
  induction rest generalizing s with
  | done a =>
    obtain ⟨r, memory⟩ := a
    have hstep : step c (g i) s i =
        some ({ s with memory }.setStage i (.afterPass c call r)) := by simp [step, hd]
    have hafter := getElem?_setStage_self (s := { s with memory }) hd (.afterPass c call r)
    refine .of_step hstep ?_
    cases r with
    | ok outcomes => exact finishes_running hafter
    | error e => exact finishes_done hafter
  | ask r next ih =>
    have hstep : step c (g i) s i = some ((s.asked (g i) i r).setStage i
        (.mounting (next ((g i).answer r s.vault).1))) := by simp [step, hd]
    exact .of_step hstep (ih _ (getElem?_setStage_self (s := s.asked (g i) i r) hd _))
  | note line next ih =>
    have hstep : step c (g i) s i = some ({ s with vault := (g i).log line s.vault }.setStage i
        (.mounting next)) := by simp [step, hd]
    exact .of_step hstep (ih (getElem?_setStage_self (s := { s with vault := _ }) hd _))

/-- A caller that does not have to wait comes to its end. -/
theorem finishes_waiting (hd : s.callers[i]? = some ⟨call, .waiting⟩)
    (hmemory : s.memory ≠ .fresh) :
    Finishes c g s i call := by
  rcases s.memory.eq_fresh_or with hfresh | ⟨outcomes, houtcomes⟩
  · exact absurd hfresh hmemory
  · cases hmounts : call.mounts with
    | true =>
      have hstep : step c (g i) s i = some (s.setStage i
          (.mounting ((Session.bootstrap c.backends).run s.memory))) := by
        simp [step, hd, hmounts, houtcomes]
      exact .of_step hstep (finishes_mounting (getElem?_setStage_self hd _))
    | false =>
      have hstep : step c (g i) s i = some (s.setStage i (.running (call.own c []).run)) := by
        simp [step, hd, hmounts]
      exact .of_step hstep (finishes_running (getElem?_setStage_self hd _))

/-! ## What a course says -/

theorem requests_of_bootstrap {backends : List Backend}
    {q : Program (Except Fault (List Backend.Outcome) × Memory)}
    (h : Plays ((Session.bootstrap backends).run memory) xs q) :
    xs.map Exchange.request = (backends.take xs.length).map Backend.enabling := by
  rcases memory.eq_fresh_or with rfl | ⟨outcomes, rfl⟩
  · obtain ⟨p, hp, -⟩ := plays_bootstrap h
    exact Backend.requests_of_plays hp
  · obtain ⟨rfl, -⟩ := plays_bootstrap_mounted h
    rfl

/-- Exchanges that are a part of a pass, from its first backend on, and then what a call asks by
itself, which enables no backend. -/
structure Divided (c : Connector) (xs pass own : List Exchange) : Prop where
  split : xs = pass ++ own
  inOrder : pass.map Exchange.request = (c.backends.take pass.length).map Backend.enabling
  apart : ∀ x ∈ own, ∀ b, x.request ≠ Backend.enabling b

theorem divided_of_pass
    (h : xs.map Exchange.request = (c.backends.take xs.length).map Backend.enabling) :
    Divided c xs xs [] := ⟨(List.append_nil _).symm, h, nofun⟩

theorem Owns.divided {rest : Program (Except Fault Reply)} (h : Owns c memory call xs rest) :
    ∃ pass own, Divided c xs pass own ∧ (memory = .fresh → call.mounts = true → own = []) ∧
      ∃ outcomes, (call.mounts = true → memory = ⟨some outcomes⟩) ∧
        Plays (call.own c outcomes).run own rest := by
  obtain ⟨pass, own, outcomes, hsplit, hentered, hown⟩ := h
  have hapart := ((call.own_mountsNothing c outcomes).plays hown).1
  rcases hentered with ⟨hnot, rfl⟩ | ⟨-, hmemory, hpass⟩
  · have hnever : call.mounts ≠ true := by simp [hnot]
    exact ⟨[], own, ⟨hsplit, rfl, hapart⟩, fun _ h => absurd h hnever, outcomes,
      fun h => absurd h hnever, hown⟩
  · have hinOrder : pass.map Exchange.request =
        (c.backends.take pass.length).map Backend.enabling := by
      rcases hpass with rfl | hpass
      · rfl
      · exact hpass.requests
    refine ⟨pass, own, ⟨hsplit, hinOrder, hapart⟩, fun hfresh => ?_, outcomes,
      fun _ => hmemory, hown⟩
    rw [hmemory] at hfresh
    cases hfresh

/-- While nothing is remembered only calls that do not need the backends have asked anything by
themselves. A call that is done was refused a backend, or has done what it does by itself. -/
theorem Course.divided (h : Course c memory call xs stage) :
    ∃ pass own, Divided c xs pass own ∧ (memory = .fresh → call.mounts = true → own = []) ∧
      ∀ result, stage = .done result →
        (own = [] ∧ ∃ e, Backend.Pass c.backends pass (.error e) ∧ result = .error e) ∨
        ∃ outcomes, (call.mounts = true → memory = ⟨some outcomes⟩) ∧
          Plays (call.own c outcomes).run own (.done result) := by
  cases stage with
  | waiting =>
    obtain rfl : xs = [] := h
    exact ⟨[], [], divided_of_pass rfl, fun _ _ => rfl, nofun⟩
  | mounting rest =>
    exact ⟨xs, [], divided_of_pass (requests_of_bootstrap h.2), fun _ _ => rfl, nofun⟩
  | running rest =>
    obtain ⟨pass, own, hdivided, hfresh, -⟩ := Owns.divided h
    exact ⟨pass, own, hdivided, hfresh, nofun⟩
  | done result =>
    rcases h with ⟨-, e, hpass, rfl⟩ | h
    · refine ⟨xs, [], divided_of_pass hpass.requests, fun _ _ => rfl, ?_⟩
      rintro result ⟨⟩
      exact .inl ⟨rfl, e, hpass, rfl⟩
    · obtain ⟨pass, own, hdivided, hfresh, hplays⟩ := Owns.divided h
      refine ⟨pass, own, hdivided, hfresh, ?_⟩
      rintro result ⟨⟩
      exact .inr hplays

theorem exists_enabling {backends : List Backend}
    (h : xs.map Exchange.request = (backends.take xs.length).map Backend.enabling) :
    ∀ x ∈ xs, ∃ b ∈ backends, x.request = Backend.enabling b := by
  intro x hx
  obtain ⟨b, hb, hrequest⟩ := List.mem_map.mp (IsPass.mem_enabling ⟨_, h⟩ x hx)
  exact ⟨b, hb, hrequest.symm⟩

/-- While nothing is remembered a call has only looked up the token or enabled backends. -/
theorem Course.first (h : Course c .fresh call xs stage) : ∀ x ∈ xs,
    call = .validate ∧ x.request = .get Endpoint.lookupSelf ∨
      ∃ b ∈ c.backends, x.request = Backend.enabling b := by
  have howns {rest : Program (Except Fault Reply)} (h : Owns c .fresh call xs rest) : ∀ x ∈ xs,
      call = .validate ∧ x.request = .get Endpoint.lookupSelf := by
    obtain ⟨pass, own, outcomes, rfl, ⟨hnot, rfl⟩ | ⟨-, hmemory, -⟩, hown⟩ := h
    · obtain rfl := Call.eq_validate hnot
      have hasks : (Call.validate.own c outcomes).Asks (· = .get Endpoint.lookupSelf) :=
        .bind validate_asks fun _ => .pure _
      exact fun x hx => ⟨rfl, (hasks.plays hown).1 x hx⟩
    · cases hmemory
  intro x hx
  cases stage with
  | waiting =>
    obtain rfl : xs = [] := h
    cases hx
  | mounting rest => exact .inr (exists_enabling (requests_of_bootstrap h.2) x hx)
  | running rest => exact .inl (howns h x hx)
  | done result =>
    rcases h with ⟨-, e, hpass, -⟩ | h
    · exact .inr (exists_enabling hpass.requests x hx)
    · exact .inl (howns h x hx)

/-- A call that began when outcomes were remembered asks what it does by itself, and nothing
else. -/
theorem Course.of_mounted {outcomes : List Backend.Outcome} {result : Except Fault Reply}
    (h : Course c ⟨some outcomes⟩ call xs (.done result))
    (hnothing : ∀ x ∈ xs, MountsNothing x.request) :
    Plays (call.own c outcomes).run xs (.done result) := by
  rcases h with ⟨-, e, hpass, -⟩ | ⟨pass, own, outcomes', rfl, hentered, hown⟩
  · obtain ⟨b, -, x, hx, hrequest, -⟩ := hpass.exists_refused
    exact absurd hrequest (hnothing x hx b)
  · rcases hentered with ⟨hnot, rfl⟩ | ⟨-, hmemory, hpass⟩
    · obtain rfl := Call.eq_validate hnot
      exact hown
    · cases hmemory
      have hnone : pass = [] := by
        rcases hpass with rfl | hpass
        · rfl
        · refine List.eq_nil_iff_forall_not_mem.mpr fun x hx => ?_
          obtain ⟨b, -, hrequest⟩ := exists_enabling hpass.requests x hx
          exact hnothing x (List.mem_append_left own hx) b hrequest
      rw [hnone]
      exact hown

/-- A caller that was refused a backend has asked nothing since, and ends with the refusal. -/
theorem Course.refused (h : Course c memory call xs stage) {k : Nat} {b : Backend} {x : Exchange}
    {e : Fault} (hb : c.backends[k]? = some b) (hx : xs[k]? = some x)
    (hrequest : x.request = Backend.enabling b) (hrefused : b.outcome x.answer = .error e) :
    xs.length = k + 1 ∧ (stage.isMounting = true ∨ stage = .done (.error e)) := by
  have howns {rest : Program (Except Fault Reply)} : ¬Owns c memory call xs rest := by
    rintro ⟨pass, own, outcomes, rfl, hentered, hown⟩
    by_cases hfirst : k < pass.length
    · rw [List.getElem?_append_left hfirst] at hx
      rcases hentered with ⟨-, rfl⟩ | ⟨-, -, rfl | hpass⟩
      · cases hx
      · cases hx
      · cases (hpass.ends_refused hb hx hrefused).2
    · rw [List.getElem?_append_right (by omega)] at hx
      have hnothing := ((call.own_mountsNothing c outcomes).plays hown).1
      exact hnothing x (List.mem_of_getElem? hx) b hrequest
  cases stage with
  | waiting =>
    obtain rfl : xs = [] := h
    cases hx
  | mounting rest =>
    refine ⟨?_, .inl rfl⟩
    rcases memory.eq_fresh_or with rfl | ⟨outcomes, rfl⟩
    · obtain ⟨p, hp, -⟩ := plays_bootstrap h.2
      exact (Backend.plays_refused hp hb hx hrefused).1
    · obtain ⟨rfl, -⟩ := plays_bootstrap_mounted h.2
      cases hx
  | running rest => exact absurd h howns
  | done result =>
    rcases h with ⟨-, e', hpass, rfl⟩ | h
    · obtain ⟨hlength, herror⟩ := hpass.ends_refused hb hx hrefused
      exact ⟨hlength, .inr (congrArg Stage.done (congrArg Except.error (Except.error.inj herror)))⟩
    · exact absurd h howns

/-! ## The whole run -/

/-- What one caller asked was sent. -/
theorem mem_exchanges {x : Exchange} : x ∈ s.exchanges i ↔ (i, x) ∈ s.sent := by
  simp [exchanges]

/-- A refusal stays where it is. -/
theorem Disciplined.refused_later (h : Disciplined c s) {order : List Nat}
    (hsteps : Callers.steps c g s order = some s') {k : Nat} {x : Exchange}
    (hx : (s.exchanges i)[k]? = some x) : (s'.exchanges i)[k]? = some x := by
  obtain ⟨more, hmore⟩ := h.exchanges_prefix hsteps i
  have hk : k < (s.exchanges i).length := (List.getElem?_eq_some_iff.mp hx).1
  rw [← hmore, List.getElem?_append_left hk, hx]

/-- The rest of a refused pass does not change what is remembered. -/
theorem Disciplined.memory_of_refused (h : Disciplined c s) {k : Nat} {b : Backend} {x : Exchange}
    {e : Fault} (hb : c.backends[k]? = some b) (hx : (s.exchanges i)[k]? = some x)
    (hrefused : b.outcome x.answer = .error e) {n : Nat}
    (hsteps : Callers.steps c g s (List.replicate n i) = some s') : s'.memory = s.memory := by
  induction n generalizing s with
  | zero =>
    cases hsteps
    rfl
  | succ n ih =>
    rw [List.replicate_succ, steps_cons] at hsteps
    obtain ⟨s₁, hstep, hrest⟩ := Option.bind_eq_some_iff.mp hsteps
    have hone : Callers.steps c g s [i] = some s₁ := by rw [steps_cons, hstep]; rfl
    rw [ih (h.step hstep) (h.refused_later hone hx) hrest]
    rcases h.memory_of_step hstep with hsame | ⟨-, outcomes, -, hpass⟩
    · exact hsame
    · cases (hpass.ends_refused hb hx hrefused).2

/-- What holds of callers at any time of a run: mounting comes first, and succeeds once at most. -/
structure MountedOnce (c : Connector) (g : Nat → Gateway σ) (calls : List Call) (s : Callers σ) :
    Prop where
  /-- While nothing is remembered one pass at most is in progress, and nothing was asked but to
  look up the token, by a call that validates it, and to enable backends. -/
  first : s.memory = .fresh →
    (∀ (j k : Nat) (d e : Caller), s.callers[j]? = some d → s.callers[k]? = some e →
      d.stage.isMounting = true → e.stage.isMounting = true → j = k) ∧
    ∀ p ∈ s.sent, calls[p.1]? = some .validate ∧ p.2.request = .get Endpoint.lookupSelf ∨
      ∃ b ∈ c.backends, p.2.request = Backend.enabling b
  /-- Every call enables backends in order from the first on, and then does what it does by
  itself. When it is done it was refused a backend and gives that refusal, or it has done by
  itself what it does with the outcomes that are remembered, and gives the same. -/
  inOrder : ∀ (i : Nat) (d : Caller), s.callers[i]? = some d →
    ∃ pass own, Divided c (s.exchanges i) pass own ∧
      (s.memory = .fresh → d.call.mounts = true → own = []) ∧
      ∀ result, d.stage = .done result →
        (own = [] ∧ ∃ e, Backend.Pass c.backends pass (.error e) ∧ result = .error e) ∨
        ∃ outcomes, (d.call.mounts = true → s.memory = ⟨some outcomes⟩) ∧
          Plays (d.call.own c outcomes).run own (.done result)
  /-- A call that was refused the backend at a place has asked one request more than there are
  backends before it. It asks nothing else; it can return, which changes nothing that is
  remembered; and it returns the refusal. -/
  refused : ∀ (i : Nat) (d : Caller) (k : Nat) (b : Backend) (x : Exchange) (e : Fault),
    s.callers[i]? = some d → c.backends[k]? = some b → (s.exchanges i)[k]? = some x →
    x.request = Backend.enabling b → b.outcome x.answer = .error e →
    (s.exchanges i).length = k + 1 ∧
      (∃ n s', steps c g s (List.replicate n i) = some s' ∧
        s'.callers[i]? = some ⟨d.call, .done (.error e)⟩ ∧ s'.memory = s.memory) ∧
      ∀ order s', steps c g s order = some s' → s'.exchanges i = s.exchanges i ∧
        ∀ result, s'.callers[i]? = some ⟨d.call, .done result⟩ → result = .error e
  /-- Nothing comes to be remembered but the outcomes of a pass that succeeded. -/
  succeeds : ∀ (i : Nat) (s' : Callers σ), s.memory = .fresh → step c (g i) s i = some s' →
    s'.memory = .fresh ∨ ∃ outcomes, s'.memory = ⟨some outcomes⟩ ∧
      Backend.Pass c.backends (s.exchanges i) (.ok outcomes)
  /-- Once the outcomes of a pass are remembered they stay, and no backend is enabled again. Every
  call that has not begun can return, and it asks and returns what it does by itself; to mount the
  backends is then to be given those outcomes. -/
  after : ∀ outcomes, s.memory = ⟨some outcomes⟩ →
    (∃ j pass own, s.exchanges j = pass ++ own ∧ Backend.Pass c.backends pass (.ok outcomes)) ∧
    (∀ i call, s.callers[i]? = some ⟨call, .waiting⟩ → Finishes c g s i call) ∧
    ∀ order s', steps c g s order = some s' → s'.memory = ⟨some outcomes⟩ ∧
      (∃ later, s'.sent = s.sent ++ later ∧
        ∀ p ∈ later, ∀ b, p.2.request ≠ Backend.enabling b) ∧
      ∀ i call result, s.callers[i]? = some ⟨call, .waiting⟩ →
        s'.callers[i]? = some ⟨call, .done result⟩ →
        Plays (call.own c outcomes).run (s'.exchanges i) (.done result) ∧
          (call = .bootstrap → result = .ok (.outcomes outcomes))

theorem exists_stage_of_steps {d : Caller} {order : List Nat} (hd : s.callers[i]? = some d)
    (hsteps : steps c g s order = some s') :
    ∃ stage, s'.callers[i]? = some ⟨d.call, stage⟩ := by
  have hcall := congrArg (·[i]?) (calls_of_steps hsteps)
  simp only [List.getElem?_map, hd, Option.map_some, Option.map_eq_some_iff] at hcall
  obtain ⟨d', hd', hsame⟩ := hcall
  exact ⟨d'.stage, by rw [hd', ← hsame]⟩

theorem Disciplined.refused (h : Disciplined c s) {d : Caller} {k : Nat} {b : Backend}
    {x : Exchange} {e : Fault} (hd : s.callers[i]? = some d) (hb : c.backends[k]? = some b)
    (hx : (s.exchanges i)[k]? = some x) (hrequest : x.request = Backend.enabling b)
    (hrefused : b.outcome x.answer = .error e) :
    (s.exchanges i).length = k + 1 ∧
      (∃ n s', Callers.steps c g s (List.replicate n i) = some s' ∧
        s'.callers[i]? = some ⟨d.call, .done (.error e)⟩ ∧ s'.memory = s.memory) ∧
      ∀ order s', Callers.steps c g s order = some s' → s'.exchanges i = s.exchanges i ∧
        ∀ result, s'.callers[i]? = some ⟨d.call, .done result⟩ → result = .error e := by
  obtain ⟨hlength, hstage⟩ := (h.course i d hd).refused hb hx hrequest hrefused
  have hlater {order : List Nat} {s' : Callers σ} (hsteps : Callers.steps c g s order = some s')
      {d' : Caller} (hd' : s'.callers[i]? = some d') :
      s'.exchanges i = s.exchanges i ∧
        (d'.stage.isMounting = true ∨ d'.stage = .done (.error e)) := by
    obtain ⟨hlength', hstage'⟩ := ((h.steps hsteps).course i d' hd').refused hb
      (h.refused_later hsteps hx) hrequest hrefused
    have hinit := h.exchanges_prefix hsteps i
    exact ⟨(hinit.eq_of_length (hlength.trans hlength'.symm)).symm, hstage'⟩
  have hresult {order : List Nat} {s' : Callers σ} (hsteps : Callers.steps c g s order = some s')
      {result : Except Fault Reply} (hdone : s'.callers[i]? = some ⟨d.call, .done result⟩) :
      result = .error e := by
    rcases (hlater hsteps hdone).2 with hmounting | hdone
    · cases hmounting
    · exact Stage.done.inj hdone
  refine ⟨hlength, ?_, fun order s' hsteps => ?_⟩
  · have hfinishes : Finishes c g s i d.call := by
      obtain ⟨call, stage⟩ := d
      cases stage with
      | mounting rest => exact finishes_mounting hd
      | done result => exact finishes_done hd
      | waiting => rcases hstage with hstage | hstage <;> cases hstage
      | running rest => rcases hstage with hstage | hstage <;> cases hstage
    obtain ⟨n, s', result, hsteps, hdone⟩ := hfinishes
    obtain rfl := hresult hsteps hdone
    exact ⟨n, s', hsteps, hdone, h.memory_of_refused hb hx hrefused hsteps⟩
  · obtain ⟨stage, hd'⟩ := exists_stage_of_steps hd hsteps
    exact ⟨(hlater hsteps hd').1, fun result hdone => hresult hsteps hdone⟩

/-- Callers mount first, and once. -/
theorem Disciplined.mountedOnce (h : Disciplined c s) {calls : List Call}
    (hcalls : s.callers.map Caller.call = calls) : MountedOnce c g calls s where
  first hfresh := by
    refine ⟨h.alone hfresh, fun ⟨i, x⟩ hp => ?_⟩
    obtain ⟨d, hd⟩ : ∃ d, s.callers[i]? = some d :=
      ⟨_, List.getElem?_eq_getElem (h.known _ hp)⟩
    have hcourse := h.course i d hd
    rw [hfresh] at hcourse
    rcases hcourse.first x (mem_exchanges.mpr hp) with ⟨hcall, hrequest⟩ | henables
    · refine .inl ⟨?_, hrequest⟩
      rw [← hcalls, List.getElem?_map, hd, Option.map_some, hcall]
    · exact .inr henables
  inOrder i d hd := (h.course i d hd).divided
  refused i d k b x e hd hb hx hrequest hrefused := h.refused hd hb hx hrequest hrefused
  succeeds i s' hfresh hstep := by
    rcases h.memory_of_step hstep with hsame | ⟨-, hsucceeds⟩
    · exact .inl (hsame.trans hfresh)
    · exact .inr hsucceeds
  after outcomes hmemory := by
    have hmounted : s.memory ≠ .fresh := by
      rw [hmemory]
      exact nofun
    refine ⟨h.earned outcomes hmemory, fun i call hd => finishes_waiting hd hmounted,
      fun order s' hsteps => ?_⟩
    obtain ⟨hsame, later, hsent, hlater⟩ := h.later hmounted hsteps
    refine ⟨hsame.trans hmemory, ⟨later, hsent, hlater⟩, fun i call result hd hdone => ?_⟩
    have hbefore : s.exchanges i = [] := h.course i _ hd
    have hnothing : ∀ x ∈ s'.exchanges i, MountsNothing x.request := by
      intro x hx
      rw [mem_exchanges, hsent] at hx
      rcases List.mem_append.mp hx with hx | hx
      · rw [← mem_exchanges, hbefore] at hx
        cases hx
      · exact hlater _ hx
    have hcourse := (h.steps hsteps).course i _ hdone
    rw [hsame, hmemory] at hcourse
    have hplays := hcourse.of_mounted hnothing
    refine ⟨hplays, ?_⟩
    rintro rfl
    generalize s'.exchanges i = xs at hplays
    cases hplays
    rfl

/-- Gateways of which the first does not reach the second of the usual backends. -/
def firstCutOff (i : Nat) : Gateway Unit :=
  if i = 0 then Holdings.cutOff "v1/sys/auth/userpass" else Holdings.obliging

/-- Bootstrap comes first and succeeds at most once. Whatever the vault answers to callers of one
connector, and in whatever order they take their steps, mounting comes first in every call that
needs it, one pass at a time; a pass that fails ends its call and leaves nothing behind; and after
one that succeeds no backend is enabled again and every call does what it does by itself. -/
theorem mounted_once (c : Connector) (g : Nat → Gateway σ) (calls : List Call) (vault : σ)
    (order : List Nat) (s : Callers σ) (h : steps c g (start calls vault) order = some s) :
    MountedOnce c g calls s := by
  refine ((Disciplined.start c calls vault).steps h).mountedOnce ?_
  rw [calls_of_steps h, start, List.map_map]
  exact List.map_id calls

/-- The first of three callers does not reach the second backend and gives up, while the third looks
up the token; the second caller then mounts all backends and lists the groups. -/
theorem mounted_once_of_three :
    ∃ s : Callers Unit, steps ⟨Backend.defaults, 10⟩ firstCutOff
        (start [.bootstrap, .list .group none "", .validate] ())
        ([0, 2, 0, 2, 0, 2, 0, 2, 0, 0] ++ List.replicate 12 1) = some s ∧
      s.memory = ⟨some [.enabled, .enabled, .enabled]⟩ ∧
      s.sent.map (fun p => (p.1, p.2.request.path)) =
        [(2, "v1/auth/token/lookup-self"), (0, "v1/sys/auth/approle"), (0, "v1/sys/auth/userpass"),
          (1, "v1/sys/auth/approle"), (1, "v1/sys/auth/userpass"), (1, "v1/sys/mounts/secret"),
          (1, "v1/identity/group/id")] ∧
      MountedOnce ⟨Backend.defaults, 10⟩ firstCutOff
        [.bootstrap, .list .group none "", .validate] s := by
  have hrun : (steps ⟨Backend.defaults, 10⟩ firstCutOff
      (start [.bootstrap, .list .group none "", .validate] ())
      ([0, 2, 0, 2, 0, 2, 0, 2, 0, 0] ++ List.replicate 12 1)).map
        (fun s => (s.memory, s.sent.map fun p => (p.1, p.2.request.path))) =
      some (⟨some [.enabled, .enabled, .enabled]⟩,
        [(2, "v1/auth/token/lookup-self"), (0, "v1/sys/auth/approle"), (0, "v1/sys/auth/userpass"),
          (1, "v1/sys/auth/approle"), (1, "v1/sys/auth/userpass"), (1, "v1/sys/mounts/secret"),
          (1, "v1/identity/group/id")]) := by decide +kernel
  obtain ⟨s, hsteps, hs⟩ := Option.map_eq_some_iff.mp hrun
  obtain ⟨hmemory, hsent⟩ := Prod.mk.inj hs
  exact ⟨s, hsteps, hmemory, hsent, mounted_once _ firstCutOff _ () _ s hsteps⟩

end VaultAccess.Connector.Callers
