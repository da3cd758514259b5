import VaultAccess.Proofs.Connector.Losses
import VaultAccess.Proofs.Vault.Disturbed

/-!
# Vaults that hold still

At a vault that holds still but for its mounts, what a call gives does not depend on when it is
made. Where some of its requests fail the call fails, and leaves nothing behind but backends that
are mounted already.
-/
namespace VaultAccess.Connector

open Vault Program Paging

variable {α σ : Type} {c : Connector} {g : Gateway σ} {backends : List Backend}
  {isMounted : σ → Backend → Prop} {memory memory' : Memory} {s s' : σ}

/-! ## Vaults that hold still -/

/-- That a gateway has mounted what it answers to be mounted, and keeps it mounted. -/
structure KeepsMounts (g : Gateway σ) (backends : List Backend) (isMounted : σ → Backend → Prop) :
    Prop where
  mounts : ∀ b ∈ backends, ∀ s o, b.outcome (g.answer (Backend.enabling b) s).1 = .ok o →
    isMounted (g.answer (Backend.enabling b) s).2 b
  keeps : ∀ r s b, isMounted s b → isMounted (g.answer r s).2 b
  keeps_log : ∀ line s b, isMounted s b → isMounted (g.log line s) b

/-- That a vault holds still but for its mounts: it lets a backend be enabled always or never,
always if it is mounted, and where all are mounted it answers what only reads in one way. -/
structure HoldsStill (g : Gateway σ) (backends : List Backend)
    (isMounted : σ → Backend → Prop) : Prop extends KeepsMounts g backends isMounted where
  steady : ∀ b ∈ backends, ∀ s s' o, b.outcome (g.answer (Backend.enabling b) s).1 = .ok o →
    ∃ o', b.outcome (g.answer (Backend.enabling b) s').1 = .ok o'
  inUse : ∀ b ∈ backends, ∀ s, isMounted s b →
    ∃ o, b.outcome (g.answer (Backend.enabling b) s).1 = .ok o
  tells : ∀ r s s', IsRead r → (∀ b ∈ backends, isMounted s b) →
    (∀ b ∈ backends, isMounted s' b) → (g.answer r s).1 = (g.answer r s').1

namespace KeepsMounts

theorem run (h : KeepsMounts g backends isMounted) (p : Program α) {s : σ} {b : Backend}
    (hb : isMounted s b) : isMounted (p.run g s).2 b := by
  induction p generalizing s with
  | done a => exact hb
  | ask r next ih => exact ih _ (h.keeps r s b hb)
  | note line next ih => exact ih (h.keeps_log line s b hb)

/-- What a run was told to be mounted is mounted at its end. -/
theorem of_trace (h : KeepsMounts g backends isMounted) {p : Program α} {s : σ} {b : Backend}
    (hb : b ∈ backends) {x : Exchange} (hx : x ∈ p.trace g s)
    (hrequest : x.request = Backend.enabling b) {o : Backend.Outcome}
    (ho : b.outcome x.answer = .ok o) : isMounted (p.run g s).2 b := by
  induction p generalizing s with
  | done a => cases hx
  | note line next ih => exact ih hx
  | ask r next ih =>
    rcases List.mem_cons.mp hx with rfl | hx
    · obtain rfl : r = Backend.enabling b := hrequest
      rw [run_ask]
      exact h.run _ (h.mounts b hb s o ho)
    · exact ih _ hx

/-- A pass that succeeds leaves its backends mounted. -/
theorem of_pass (h : KeepsMounts g backends isMounted) {outcomes : List Backend.Outcome} {s' : σ}
    (hpass : (Backend.ensureAll backends).on g s = (.ok outcomes, s')) :
    ∀ b ∈ backends, isMounted s' b := by
  have hrun := Backend.pass_of_run backends g s
  rw [Action.on] at hpass
  rw [hpass] at hrun
  intro b hb
  obtain ⟨x, hx, hrequest, o, ho⟩ := hrun.exists_mounted b hb
  have hmounted := h.of_trace hb hx hrequest ho
  rwa [hpass] at hmounted

/-- Failures take nothing back. -/
theorem disturbed (h : KeepsMounts g backends isMounted) :
    KeepsMounts (Program.disturbed g) backends fun s b => isMounted s.1 b where
  mounts b hb := by
    rintro ⟨s, schedule⟩ o ho
    rcases answer_disturbed g (Backend.enabling b) s schedule with
      ⟨rest, -, hanswer⟩ | ⟨failure, s', rest, -, -, hanswer⟩
    · rw [hanswer] at ho ⊢
      exact h.mounts b hb s o ho
    · rw [hanswer] at ho
      obtain ⟨e, -, he⟩ := Backend.outcome_of_not_acceptable (b := b)
        (failure.not_acceptable (Backend.enabling b))
      rw [he] at ho
      cases ho
  keeps r := by
    rintro ⟨s, schedule⟩ b hb
    rcases answer_disturbed g r s schedule with
      ⟨rest, -, hanswer⟩ | ⟨failure, s', rest, -, rfl | rfl, hanswer⟩
    · rw [hanswer]
      exact h.keeps r s b hb
    · rw [hanswer]
      exact h.keeps r s b hb
    · rw [hanswer]
      exact hb
  keeps_log line s b hb := h.keeps_log line s.1 b hb

end KeepsMounts

/-! ## One call -/

/-- That a session remembers a pass only where the backends are mounted. -/
def Ready (backends : List Backend) (isMounted : σ → Backend → Prop) (memory : Memory) (s : σ) :
    Prop :=
  ∀ outcomes, memory = ⟨some outcomes⟩ → ∀ b ∈ backends, isMounted s b

theorem ready_fresh (backends : List Backend) (isMounted : σ → Backend → Prop) (s : σ) :
    Ready backends isMounted .fresh s := nofun

theorem run_mounted (c : Connector) (t : Action α) (outcomes : List Backend.Outcome)
    (g : Gateway σ) (s : σ) :
    Program.run g ((c.mounted t).run ⟨some outcomes⟩) s =
      (((t.on g s).1, ⟨some outcomes⟩), (t.on g s).2) := by
  rw [Connector.mounted, run_bootstrap_bind_mounted, Session.run_ofTask, Program.run_bind]
  rfl

/-- A call in a fresh session fails with its pass, or does its task after it. -/
theorem run_mounted_fresh (c : Connector) (t : Action α) (g : Gateway σ) (s : σ) :
    (∃ e s', (Backend.ensureAll c.backends).on g (g.log (passLine c.backends) s) =
        (.error e, s') ∧
      Program.run g ((c.mounted t).run .fresh) s = ((.error e, .fresh), s')) ∨
    ∃ outcomes s', (Backend.ensureAll c.backends).on g (g.log (passLine c.backends) s) =
        (.ok outcomes, s') ∧
      Program.run g ((c.mounted t).run .fresh) s =
        (((t.on g s').1, ⟨some outcomes⟩), (t.on g s').2) := by
  rw [Connector.mounted, run_bootstrap_bind_fresh, run_note, Program.run_bind, Action.on]
  rcases hpass : Program.run g (Backend.ensureAll c.backends).run
    (g.log (passLine c.backends) s) with ⟨_ | outcomes, s'⟩
  · exact .inl ⟨_, s', rfl, rfl⟩
  · refine .inr ⟨outcomes, s', rfl, ?_⟩
    rw [afterPass, Session.run_ofTask, Program.run_bind]
    rfl

/-- A call remembers a pass only where the backends are mounted. -/
theorem KeepsMounts.ready (h : KeepsMounts g c.backends isMounted)
    (hready : Ready c.backends isMounted memory s) (t : Action α) :
    Ready c.backends isMounted (Program.run g ((c.mounted t).run memory) s).1.2
      (Program.run g ((c.mounted t).run memory) s).2 := by
  obtain ⟨_ | outcomes⟩ := memory
  · rcases run_mounted_fresh c t g s with ⟨e, s', -, hrun⟩ | ⟨outcomes, s', hpass, hrun⟩
    · rw [Memory.fresh] at hrun
      rw [hrun]
      exact ready_fresh _ _ _
    · rw [Memory.fresh] at hrun
      rw [hrun]
      exact fun _ _ b hb => h.run _ (h.of_pass hpass b hb)
  · rw [run_mounted]
    exact fun _ _ b hb => h.run _ (hready outcomes rfl b hb)

/-- A call that was told what it cannot do with fails. -/
theorem mounted_fails {t : Action α} (ht : t.Heeds) {x : Exchange}
    (hx : x ∈ Program.trace g ((c.mounted t).run memory) s) (hnot : ¬x.Acceptable) :
    ∃ e, (Program.run g ((c.mounted t).run memory) s).1.1 = .error e := by
  rw [Connector.mounted] at hx ⊢
  rcases run_bootstrap_bind_cases c.backends (fun _ => Session.ofTask t) memory g s with
    ⟨pass, e, -, -, hrun⟩ | ⟨pass, outcomes, s', hpass, htrace, hrun⟩
  · exact ⟨e, hrun⟩
  · rw [htrace] at hx
    rcases List.mem_append.mp hx with hx | hx
    · obtain ⟨i, hi⟩ := List.mem_iff_getElem?.mp hx
      rcases hpass with hpass | ⟨rfl, -⟩
      · obtain ⟨-, e, b, -, -, -, hresult⟩ := hpass.fails hi hnot
        cases hresult
      · cases hx
    · obtain ⟨i, hi⟩ := List.mem_iff_getElem?.mp hx
      have hheeds : Session.Heeds (Session.ofTask t) := .ofTask ht
      obtain ⟨-, e, -, hresult⟩ := (hheeds outcomes).run hi hnot
      exact ⟨e, by rw [hrun, hresult]⟩

/-- A call none of whose requests fail goes as ever, and any other call fails. -/
theorem disturbed_call {t : Action α} (hheeds : t.Heeds) (memory : Memory) (s : σ)
    (schedule : Schedule) :
    (∃ rest : Schedule, rest.failures = schedule.failures ∧
      Program.run (disturbed g) ((c.mounted t).run memory) (s, schedule) =
        ((Program.run g ((c.mounted t).run memory) s).1,
          (Program.run g ((c.mounted t).run memory) s).2, rest)) ∨
    (Program.run (disturbed g) ((c.mounted t).run memory) (s, schedule)).2.2.failures <
        schedule.failures ∧
      ∃ e, (Program.run (disturbed g) ((c.mounted t).run memory) (s, schedule)).1.1 =
        .error e := by
  rcases run_disturbed g ((c.mounted t).run memory) s schedule with
    hquiet | ⟨hfewer, x, hx, hnot⟩
  · exact .inl hquiet
  · exact .inr ⟨hfewer, mounted_fails hheeds hx hnot⟩

/-! ## At a vault that holds still -/

namespace HoldsStill

variable {t : Action α}

/-- Where the backends are mounted, what only reads does not depend on the state. -/
theorem run_reads (h : HoldsStill g backends isMounted) {p : Program α}
    (hp : p.Obeys IsRead fun _ => True) (hs : ∀ b ∈ backends, isMounted s b)
    (hs' : ∀ b ∈ backends, isMounted s' b) : (p.run g s).1 = (p.run g s').1 := by
  induction p generalizing s s' with
  | done a => rfl
  | note line next ih =>
    exact ih hp (fun b hb => h.keeps_log line s b (hs b hb))
      fun b hb => h.keeps_log line s' b (hs' b hb)
  | ask r next ih =>
    rw [run_ask, run_ask, ← h.tells r s s' hp.1 hs hs']
    exact ih _ (hp.2 _) (fun b hb => h.keeps r s b (hs b hb)) fun b hb => h.keeps r s' b (hs' b hb)

/-- Where a pass fails, the backends are never all mounted. -/
theorem not_mounted_of_pass (h : HoldsStill g backends isMounted) {e : Fault} {s₁ : σ}
    (hpass : (Backend.ensureAll backends).on g s = (.error e, s₁)) (s' : σ) :
    ¬∀ b ∈ backends, isMounted s' b := by
  intro hs'
  have hrun := Backend.pass_of_run backends g s
  rw [Action.on] at hpass
  rw [hpass] at hrun
  obtain ⟨b, hb, x, hx, hrequest, he⟩ := hrun.exists_refused
  obtain ⟨s₂, hanswer⟩ := answered_of_mem_trace g _ s x hx
  obtain ⟨o, ho⟩ := h.inUse b hb s' (hs' b hb)
  obtain ⟨o', ho'⟩ := h.steady b hb s' s₂ o ho
  rw [hanswer, hrequest, ho'] at he
  cases he

/-- A call fails where the backends are never all mounted, or does its task where they are. -/
theorem call_cases (h : HoldsStill g c.backends isMounted)
    (hready : Ready c.backends isMounted memory s) (t : Action α) :
    (∃ e, (Program.run g ((c.mounted t).run memory) s).1.1 = .error e ∧
      ∀ s', ¬∀ b ∈ c.backends, isMounted s' b) ∨
    ∃ s', (∀ b ∈ c.backends, isMounted s' b) ∧
      (Program.run g ((c.mounted t).run memory) s).1.1 = (t.on g s').1 := by
  obtain ⟨_ | outcomes⟩ := memory
  · rcases run_mounted_fresh c t g s with ⟨e, s', hpass, hrun⟩ | ⟨outcomes, s', hpass, hrun⟩
    · rw [Memory.fresh] at hrun
      exact .inl ⟨e, by rw [hrun], h.not_mounted_of_pass hpass⟩
    · rw [Memory.fresh] at hrun
      exact .inr ⟨s', h.of_pass hpass, by rw [hrun]⟩
  · exact .inr ⟨s, hready outcomes rfl, by rw [run_mounted]⟩

/-- What a call gives does not depend on when it is made. -/
theorem result_eq (h : HoldsStill g c.backends isMounted) (ht : t.Asks IsRead)
    (hready : Ready c.backends isMounted memory s)
    (hready' : Ready c.backends isMounted memory' s') :
    (Program.run g ((c.mounted t).run memory) s).1.1.toOption =
      (Program.run g ((c.mounted t).run memory') s').1.1.toOption := by
  rcases h.call_cases hready t with ⟨e, hfails, hnever⟩ | ⟨s₁, hmounted, hresult⟩
  · rcases h.call_cases hready' t with ⟨e', hfails', -⟩ | ⟨s₂, hmounted', -⟩
    · rw [hfails, hfails']
      rfl
    · exact absurd hmounted' (hnever s₂)
  · rcases h.call_cases hready' t with ⟨-, -, hnever⟩ | ⟨s₂, hmounted', hresult'⟩
    · exact absurd hmounted (hnever s₁)
    · rw [hresult, hresult', Action.on, Action.on, h.run_reads ht hmounted hmounted']

end HoldsStill

/-- A vault that holds the same all along, over the paths at which it has mounted a backend. -/
def standing (h : Holdings) : Gateway (List String) where
  answer r taken :=
    if r.method = .post then
      if r.path ∈ taken then (.ok (Backend.inUse r.path), taken)
      else (.ok ⟨204, .null⟩, r.path :: taken)
    else (((Holdings.gateway Holdings.obliging).answer r (h, ())).1, taken)
  log _ taken := taken

theorem answer_standing_enabling (h : Holdings) (b : Backend) (taken : List String) :
    (∃ o, b.outcome ((standing h).answer (Backend.enabling b) taken).1 = .ok o) ∧
      Endpoint.backend b ∈ ((standing h).answer (Backend.enabling b) taken).2 := by
  have hpost : (Backend.enabling b).method = .post := rfl
  have hpath : (Backend.enabling b).path = Endpoint.backend b := rfl
  simp only [standing, if_pos hpost, hpath]
  by_cases htaken : Endpoint.backend b ∈ taken
  · have hmessage : "path is already in use at " ++ Endpoint.backend b ++ "/" ∈
        (Backend.inUse (Endpoint.backend b)).errorMessages := List.mem_cons_self
    rw [if_pos htaken]
    exact ⟨⟨_, Backend.outcome_of_inUse rfl hmessage⟩, htaken⟩
  · rw [if_neg htaken]
    exact ⟨⟨_, rfl⟩, List.mem_cons_self⟩

theorem answer_standing_read (h : Holdings) {r : Request} (hr : IsRead r) (taken : List String) :
    (standing h).answer r taken =
      (((Holdings.gateway Holdings.obliging).answer r (h, ())).1, taken) := if_neg hr

/-- A vault that holds the same all along holds still. -/
theorem standing_holdsStill (h : Holdings) (backends : List Backend) :
    HoldsStill (standing h) backends fun taken b => Endpoint.backend b ∈ taken where
  mounts b _ taken _ _ := (answer_standing_enabling h b taken).2
  keeps r taken b hb := by
    by_cases hpost : r.method = .post
    · simp only [standing, if_pos hpost]
      split
      · exact hb
      · exact List.mem_cons_of_mem _ hb
    · rw [answer_standing_read h hpost]
      exact hb
  keeps_log _ _ _ hb := hb
  steady b _ _ taken _ _ := (answer_standing_enabling h b taken).1
  inUse b _ taken _ := (answer_standing_enabling h b taken).1
  tells r taken taken' hr _ _ := by
    rw [answer_standing_read h hr, answer_standing_read h hr]

end VaultAccess.Connector
