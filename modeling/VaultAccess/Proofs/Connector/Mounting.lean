import VaultAccess.Proofs.Connector.Passes
import VaultAccess.Proofs.Vault.Server

/-!
# Sessions that mount the backends

A session starts with a mounting pass unless it remembers one: requests that enable the backends in
order, up to the first that fails. What follows a pass runs in the memory of its outcomes.
-/
namespace VaultAccess

open Vault Program

variable {σ : Type}

namespace Backend

/-- That a gateway lets every backend be enabled, or says that its path is taken. -/
def CanEnable {τ : Type} (rest : Gateway τ) (backends : List Backend) : Prop :=
  ∀ b ∈ backends, ∀ t, ∃ r, (rest.answer (enabling b) t).1 = .ok r ∧
    (r.isSuccess = true ∨ saysInUse r = true)

theorem canEnable_obliging (backends : List Backend) : CanEnable Holdings.obliging backends :=
  fun _ _ _ => ⟨⟨204, .null⟩, rfl, .inl rfl⟩

/-- Enabling a backend is none of the vault's own business. -/
theorem gateway_enabling {τ : Type} (rest : Gateway τ) (b : Backend) (h : Holdings) (t : τ) :
    (Holdings.gateway rest).answer (enabling b) (h, t) =
      ((rest.answer (enabling b) t).1, (h, (rest.answer (enabling b) t).2)) := by
  have hunder : Endpoint.isUnderUsers (enabling b).path = false := Endpoint.isUnderUsers_backend b
  simp only [Holdings.gateway, hunder, Bool.false_eq_true, if_false]
  rfl

/-- A program that asks for no more than that changes nothing that the vault holds. -/
theorem holdings_of_enabling {α τ : Type} {Q : α → Prop} {p : Program α}
    (hp : p.Obeys (fun r => ∃ b, r = enabling b) Q) (rest : Gateway τ) (h : Holdings) (t : τ) :
    (p.run (Holdings.gateway rest) (h, t)).2.1 = h := by
  refine hp.keeps (I := fun s : Holdings × τ => s.1 = h) (fun r s hr hs => ?_)
    (fun _ _ hs => hs) rfl
  obtain ⟨b, rfl⟩ := hr
  rw [gateway_enabling]
  exact hs

theorem on_ensure {τ : Type} {rest : Gateway τ} {b : Backend} {r : Response} {t : τ}
    (hanswer : (rest.answer (enabling b) t).1 = .ok r)
    (hr : r.isSuccess = true ∨ saysInUse r = true) (h : Holdings) :
    ∃ outcome, (ensure b).on (Holdings.gateway rest) (h, t) =
      (.ok outcome, (h, (rest.answer (enabling b) t).2)) := by
  have hclassify : ∃ outcome, classify b r = .ok outcome := by
    unfold classify
    by_cases hsuccess : r.isSuccess = true
    · exact ⟨.enabled, if_pos hsuccess⟩
    · rw [if_neg hsuccess, if_pos (hr.resolve_left hsuccess)]
      exact ⟨.alreadyEnabled, rfl⟩
  obtain ⟨outcome, houtcome⟩ := hclassify
  refine ⟨outcome, ?_⟩
  simp only [ensure, enableBackend, Action.on, Action.run_bind, Action.run_tryCatch,
    Action.run_request, ask_bind, bind_done, run_ask]
  rw [← enabling, gateway_enabling, hanswer]
  simp only [Action.orElse, bind_done, Action.andThen_ok, houtcome]
  cases outcome <;> rfl

/-- Where the backends can be enabled a pass succeeds and changes nothing else. -/
theorem on_ensureAll {τ : Type} {rest : Gateway τ} {backends : List Backend}
    (henable : CanEnable rest backends) (h : Holdings) (t : τ) :
    ∃ outcomes t', (ensureAll backends).on (Holdings.gateway rest) (h, t) =
      (.ok outcomes, (h, t')) := by
  induction backends generalizing t with
  | nil => exact ⟨[], t, rfl⟩
  | cons b backends ih =>
    obtain ⟨r, hanswer, hr⟩ := henable b List.mem_cons_self t
    obtain ⟨outcome, houtcome⟩ := on_ensure hanswer hr h
    have hrest : CanEnable rest backends := fun b hb => henable b (List.mem_cons_of_mem _ hb)
    obtain ⟨outcomes, t', houtcomes⟩ := ih hrest (rest.answer (enabling b) t).2
    refine ⟨outcome :: outcomes, t', ?_⟩
    rw [ensureAll, Action.on_bind_of_ok _ houtcome, Action.on_bind_of_ok _ houtcomes]
    rfl

end Backend

namespace Connector

/-- Requests that enable backends in order, up to one of them. -/
def IsPass (backends : List Backend) (pass : List Exchange) : Prop :=
  ∃ k, pass.map Exchange.request = (backends.take k).map Backend.enabling

theorem IsPass.nil (backends : List Backend) : IsPass backends [] := ⟨0, rfl⟩

theorem IsPass.of_pass {backends : List Backend} {pass : List Exchange}
    {result : Except Fault (List Backend.Outcome)} (h : Backend.Pass backends pass result) :
    IsPass backends pass := ⟨pass.length, h.requests⟩

/-- The requests of a pass enable backends that are to be mounted. -/
theorem IsPass.mem_enabling {backends : List Backend} {pass : List Exchange}
    (h : IsPass backends pass) : ∀ x ∈ pass, x.request ∈ backends.map Backend.enabling := by
  obtain ⟨k, hk⟩ := h
  intro x hx
  have hrequest : x.request ∈ (backends.take k).map Backend.enabling :=
    hk ▸ List.mem_map_of_mem hx
  obtain ⟨b, hb, heq⟩ := List.mem_map.mp hrequest
  exact List.mem_map.mpr ⟨b, List.mem_of_mem_take hb, heq⟩

/-- What follows a mounting pass. -/
def afterPass {α : Type} (f : List Backend.Outcome → Session α) :
    Except Fault (List Backend.Outcome) → Program (Except Fault α × Memory)
  | .error e => done (.error e, .fresh)
  | .ok outcomes => (f outcomes).run ⟨some outcomes⟩

/-- The line that a pass begins with. -/
def passLine (backends : List Backend) : LogLine :=
  ⟨.info, "Bootstrapping " ++ toString backends.length ++ " backend(s)"⟩

/-- A session that remembers its pass goes on at once. -/
theorem run_bootstrap_bind_mounted {α : Type} (backends : List Backend)
    (f : List Backend.Outcome → Session α) (outcomes : List Backend.Outcome) :
    (Session.bootstrap backends >>= f).run ⟨some outcomes⟩ =
      (f outcomes).run ⟨some outcomes⟩ := by
  simp [Session.bootstrap]

/-- A fresh session mounts the backends first. -/
theorem run_bootstrap_bind_fresh {α : Type} (backends : List Backend)
    (f : List Backend.Outcome → Session α) :
    (Session.bootstrap backends >>= f).run .fresh =
      note (passLine backends) ((Backend.ensureAll backends).run.bind (afterPass f)) := by
  simp only [Session.bootstrap, Memory.fresh, Session.run_bind, Session.run_get, bind_done,
    Session.andThen_ok, Session.run_ofTask, Action.run_note, note_bind, bind_assoc]
  congr 2
  funext r
  cases r with
  | error e => rfl
  | ok outcomes =>
    simp only [bind_done, Session.andThen_ok, Session.run_bind, Session.run_set, Session.run_pure,
      afterPass]

theorem run_bootstrap_fresh (backends : List Backend) :
    (Session.bootstrap backends).run .fresh =
      note (passLine backends) ((Backend.ensureAll backends).run.bind (afterPass pure)) := by
  have hrun := run_bootstrap_bind_fresh backends pure
  rwa [bind_pure] at hrun

/-- A session that remembers outcomes gives them. -/
theorem run_bootstrap_mounted (backends : List Backend) (outcomes : List Backend.Outcome) :
    (Session.bootstrap backends).run ⟨some outcomes⟩ = done (.ok outcomes, ⟨some outcomes⟩) := by
  have hrun := run_bootstrap_bind_mounted backends pure outcomes
  rwa [bind_pure] at hrun

/-- A session that mounts the backends first asks for no more than their enabling and what it goes
on with, and gives the fault of its pass or what it goes on to give. -/
theorem obeys_bootstrap_bind {α : Type} {P : Request → Prop} {Q : Except Fault α × Memory → Prop}
    {backends : List Backend} {f : List Backend.Outcome → Session α}
    (hpass : ∀ b, P (Backend.enabling b)) (hfault : ∀ e, Q (.error e, .fresh))
    (hf : ∀ outcomes, ((f outcomes).run ⟨some outcomes⟩).Obeys P Q) (memory : Memory) :
    ((Session.bootstrap backends >>= f).run memory).Obeys P Q := by
  obtain ⟨_ | outcomes⟩ := memory
  · have hrun := run_bootstrap_bind_fresh backends f
    rw [Memory.fresh] at hrun
    rw [hrun, obeys_note]
    have hasks : (Backend.ensureAll backends).Asks P :=
      (Backend.ensureAll_asks backends).imp fun r hr => hr.elim fun b hb => hb ▸ hpass b
    refine Obeys.bind hasks fun result _ => ?_
    cases result with
    | error e => exact hfault e
    | ok outcomes => exact hf outcomes
  · rw [run_bootstrap_bind_mounted]
    exact hf outcomes

/-- A session that remembers outcomes asks nothing to find them. -/
theorem plays_bootstrap_mounted {backends : List Backend} {outcomes : List Backend.Outcome}
    {xs : List Exchange} {q : Program (Except Fault (List Backend.Outcome) × Memory)}
    (h : Plays ((Session.bootstrap backends).run ⟨some outcomes⟩) xs q) :
    xs = [] ∧ q = done (.ok outcomes, ⟨some outcomes⟩) := by
  rw [run_bootstrap_mounted] at h
  cases h
  exact ⟨rfl, rfl⟩

/-- What is left of a mounting session is left of its pass. -/
theorem plays_bootstrap {backends : List Backend} {xs : List Exchange}
    {q : Program (Except Fault (List Backend.Outcome) × Memory)}
    (h : Plays ((Session.bootstrap backends).run .fresh) xs q) :
    ∃ p, Plays (Backend.ensureAll backends).run xs p ∧
      (q = p.bind (afterPass pure) ∨ q = note (passLine backends) (p.bind (afterPass pure))) := by
  rw [run_bootstrap_fresh] at h
  cases h with
  | stop => exact ⟨_, .stop _, .inr rfl⟩
  | note hrest =>
    rcases hrest.of_bind with ⟨p, hp, rfl⟩ | ⟨r, ys, zs, rfl, hp, hlast⟩
    · exact ⟨p, hp, .inl rfl⟩
    · have hdone : zs = [] ∧ q = afterPass pure r := by
        cases r <;> cases hlast <;> exact ⟨rfl, rfl⟩
      obtain ⟨rfl, rfl⟩ := hdone
      exact ⟨done r, by rwa [List.append_nil], .inl rfl⟩

/-- A mounting session that is done has run a pass, and remembers its outcomes if there are any. -/
theorem pass_of_bootstrap {backends : List Backend} {xs : List Exchange}
    {r : Except Fault (List Backend.Outcome)} {memory : Memory}
    (h : Plays ((Session.bootstrap backends).run .fresh) xs (done (r, memory))) :
    Backend.Pass backends xs r ∧ afterPass pure r = done (r, memory) := by
  obtain ⟨p, hp, hq | hq⟩ := plays_bootstrap h
  · cases p with
    | ask request next => cases hq
    | note line next => cases hq
    | done r' =>
      cases r' <;> cases hq <;> exact ⟨Backend.pass_of_plays hp, rfl⟩
  · cases hq

/-- A session that mounts the backends first ends with the fault of its pass, or goes on in the
memory of outcomes, those of its pass unless it remembers some. -/
theorem run_bootstrap_bind_cases {α : Type} (backends : List Backend)
    (f : List Backend.Outcome → Session α) (memory : Memory) (g : Gateway σ) (s : σ) :
    (∃ pass e, Backend.Pass backends pass (.error e) ∧
      Program.trace g ((Session.bootstrap backends >>= f).run memory) s = pass ∧
      (Program.run g ((Session.bootstrap backends >>= f).run memory) s).1.1 = .error e) ∨
    ∃ pass outcomes s',
      (Backend.Pass backends pass (.ok outcomes) ∨ pass = [] ∧ memory = ⟨some outcomes⟩) ∧
      Program.trace g ((Session.bootstrap backends >>= f).run memory) s =
        pass ++ Program.trace g ((f outcomes).run ⟨some outcomes⟩) s' ∧
      (Program.run g ((Session.bootstrap backends >>= f).run memory) s).1 =
        (Program.run g ((f outcomes).run ⟨some outcomes⟩) s').1 := by
  obtain ⟨_ | outcomes⟩ := memory
  · have hrun := run_bootstrap_bind_fresh backends f
    rw [Memory.fresh] at hrun
    rw [hrun, trace_note, run_note, trace_bind, Program.run_bind]
    generalize g.log _ s = s'
    have hpass := Backend.pass_of_run backends g s'
    cases hresult : (Program.run g (Backend.ensureAll backends).run s').1 with
    | error e =>
      rw [hresult] at hpass
      exact .inl ⟨_, e, hpass, List.append_nil _, rfl⟩
    | ok outcomes =>
      rw [hresult] at hpass
      exact .inr ⟨_, outcomes, _, .inl hpass, rfl, rfl⟩
  · rw [run_bootstrap_bind_mounted]
    exact .inr ⟨[], outcomes, s, .inr ⟨rfl, rfl⟩, rfl, rfl⟩

/-- What follows a mounting pass runs in the memory of its outcomes. -/
theorem trace_bootstrap_bind {α : Type} (backends : List Backend)
    (f : List Backend.Outcome → Session α) (memory : Memory) (g : Gateway σ) (s : σ) :
    ∃ pass own, Program.trace g ((Session.bootstrap backends >>= f).run memory) s = pass ++ own ∧
      IsPass backends pass ∧
      (own = [] ∨ ∃ outcomes s', own = Program.trace g ((f outcomes).run ⟨some outcomes⟩) s') := by
  rcases run_bootstrap_bind_cases backends f memory g s with
    ⟨pass, e, hpass, htrace, -⟩ | ⟨pass, outcomes, s', hpass, htrace, -⟩
  · exact ⟨pass, [], by rw [htrace, List.append_nil], .of_pass hpass, .inl rfl⟩
  · refine ⟨pass, _, htrace, ?_, .inr ⟨outcomes, s', rfl⟩⟩
    rcases hpass with hpass | ⟨rfl, -⟩
    · exact .of_pass hpass
    · exact .nil backends

/-- Where the backends can be enabled a session goes on after its pass, from the same holdings. -/
theorem run_bootstrap_bind {α τ : Type} {rest : Gateway τ} {backends : List Backend}
    (henable : Backend.CanEnable rest backends) (f : List Backend.Outcome → Session α)
    (memory : Memory) (h : Holdings) (t : τ) :
    ∃ outcomes t' pass, IsPass backends pass ∧
      Program.run (Holdings.gateway rest) ((Session.bootstrap backends >>= f).run memory) (h, t) =
        Program.run (Holdings.gateway rest) ((f outcomes).run ⟨some outcomes⟩) (h, t') ∧
      Program.trace (Holdings.gateway rest) ((Session.bootstrap backends >>= f).run memory)
          (h, t) =
        pass ++ Program.trace (Holdings.gateway rest) ((f outcomes).run ⟨some outcomes⟩)
          (h, t') := by
  obtain ⟨_ | outcomes⟩ := memory
  · have hrun := run_bootstrap_bind_fresh backends f
    rw [Memory.fresh] at hrun
    obtain ⟨outcomes, t', houtcomes⟩ := Backend.on_ensureAll henable h t
    rw [Action.on] at houtcomes
    have hpass := Backend.pass_of_run backends (Holdings.gateway rest) (h, t)
    refine ⟨outcomes, t', _, .of_pass hpass, ?_⟩
    rw [hrun, run_note, trace_note, Program.run_bind, trace_bind, Holdings.gateway_log, houtcomes]
    exact ⟨rfl, rfl⟩
  · rw [run_bootstrap_bind_mounted]
    exact ⟨outcomes, t, [], .nil backends, rfl, rfl⟩

end Connector

end VaultAccess
