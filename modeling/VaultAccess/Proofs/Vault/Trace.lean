import VaultAccess.Proofs.Vault.Evaluation

/-!
# What a program asks

The exchanges of a run in order, and a rule for programs all of whose requests and results are of
a given sort whatever is answered.
-/
namespace VaultAccess.Vault

namespace Program

variable {α β σ : Type}

/-- The exchanges of a run, in order. -/
def trace (g : Gateway σ) : Program α → σ → List Exchange
  | done _, _ => []
  | ask r next, s => ⟨r, (g.answer r s).1⟩ :: (next (g.answer r s).1).trace g (g.answer r s).2
  | note line next, s => next.trace g (g.log line s)

@[simp] theorem trace_done (g : Gateway σ) (a : α) (s : σ) : (done a).trace g s = [] := rfl

@[simp] theorem trace_ask (g : Gateway σ) (r : Request) (next : Answer → Program α) (s : σ) :
    (ask r next).trace g s =
      ⟨r, (g.answer r s).1⟩ :: (next (g.answer r s).1).trace g (g.answer r s).2 := rfl

@[simp] theorem trace_note (g : Gateway σ) (line : LogLine) (next : Program α) (s : σ) :
    (note line next).trace g s = next.trace g (g.log line s) := rfl

theorem trace_bind (g : Gateway σ) (p : Program α) (f : α → Program β) (s : σ) :
    (p.bind f).trace g s = p.trace g s ++ (f (p.run g s).1).trace g (p.run g s).2 := by
  induction p generalizing s with
  | done a => rfl
  | ask r next ih => simp [ih]
  | note line next ih => simp [ih]

/-- What a run was told is what the gateway answers, in some state. -/
theorem answered_of_mem_trace (g : Gateway σ) (p : Program α) (s : σ) :
    ∀ x ∈ p.trace g s, ∃ s', x.answer = (g.answer x.request s').1 := by
  induction p generalizing s with
  | done a => exact List.forall_mem_nil _
  | ask r next ih => exact List.forall_mem_cons.mpr ⟨⟨s, rfl⟩, ih _ _⟩
  | note line next ih => exact ih _

/-- Every request of the program satisfies `P` and every result `Q`, whatever is answered. -/
def Obeys (P : Request → Prop) (Q : α → Prop) : Program α → Prop
  | done a => Q a
  | ask r next => P r ∧ ∀ answer, (next answer).Obeys P Q
  | note _ next => next.Obeys P Q

section Obeys

variable {P : Request → Prop} {Q : α → Prop} {R : β → Prop}

@[simp] theorem obeys_done {a : α} : (done a).Obeys P Q ↔ Q a := Iff.rfl

@[simp] theorem obeys_ask {r : Request} {next : Answer → Program α} :
    (ask r next).Obeys P Q ↔ P r ∧ ∀ answer, (next answer).Obeys P Q := Iff.rfl

@[simp] theorem obeys_note {line : LogLine} {next : Program α} :
    (note line next).Obeys P Q ↔ next.Obeys P Q := Iff.rfl

theorem Obeys.imp {P' : Request → Prop} {Q' : α → Prop} {p : Program α} (hp : p.Obeys P Q)
    (hP : ∀ r, P r → P' r) (hQ : ∀ a, Q a → Q' a) : p.Obeys P' Q' := by
  induction p with
  | done a => exact hQ a hp
  | ask r next ih => exact ⟨hP r hp.1, fun answer => ih answer (hp.2 answer)⟩
  | note line next ih => exact ih hp

theorem Obeys.bind {p : Program α} {f : α → Program β} (hp : p.Obeys P Q)
    (hf : ∀ a, Q a → (f a).Obeys P R) : (p.bind f).Obeys P R := by
  induction p with
  | done a => exact hf a hp
  | ask r next ih => exact ⟨hp.1, fun answer => ih answer (hp.2 answer)⟩
  | note line next ih => exact ih hp

/-- The requests of a run are of the sort that the program asks. -/
theorem Obeys.trace {p : Program α} (hp : p.Obeys P Q) (g : Gateway σ) (s : σ) :
    ∀ x ∈ p.trace g s, P x.request := by
  induction p generalizing s with
  | done a => simp
  | ask r next ih =>
    intro x hx
    rcases List.mem_cons.mp hx with rfl | hx
    · exact hp.1
    · exact ih _ (hp.2 _) _ x hx
  | note line next ih => exact ih hp _

/-- The result of a run is of the sort that the program gives. -/
theorem Obeys.run {p : Program α} (hp : p.Obeys P Q) (g : Gateway σ) (s : σ) :
    Q (p.run g s).1 := by
  induction p generalizing s with
  | done a => exact hp
  | ask r next ih => exact ih _ (hp.2 _) _
  | note line next ih => exact ih hp _

/-- What every request of the sort keeps, and every line of the log, a run keeps. -/
theorem Obeys.keeps {p : Program α} (hp : p.Obeys P Q) {g : Gateway σ} {I : σ → Prop}
    (hanswer : ∀ r s, P r → I s → I (g.answer r s).2) (hlog : ∀ line s, I s → I (g.log line s))
    {s : σ} (hs : I s) : I (p.run g s).2 := by
  induction p generalizing s with
  | done a => exact hs
  | ask r next ih => exact ih _ (hp.2 _) (hanswer r s hp.1 hs)
  | note line next ih => exact ih hp (hlog line s hs)

end Obeys

end Program

namespace Action

variable {α β : Type} {P : Request → Prop}

/-- Every request of the action satisfies `P`, whatever is answered. -/
def Asks (P : Request → Prop) (a : Action α) : Prop := a.run.Obeys P fun _ => True

theorem Asks.pure (a : α) : Asks P (Pure.pure a) := trivial

theorem Asks.throw (e : Fault) : Asks P (MonadExcept.throw e : Action α) := trivial

theorem Asks.note (level : Level) (text : String) : Asks P (note level text) := trivial

theorem Asks.ofExcept (r : Except Fault α) : Asks P (ofExcept r) := trivial

theorem Asks.request {r : Request} (h : P r) : Asks P (request r) := ⟨h, fun _ => trivial⟩

theorem Asks.imp {P' : Request → Prop} {a : Action α} (ha : Asks P a) (hP : ∀ r, P r → P' r) :
    Asks P' a := Program.Obeys.imp ha hP fun _ h => h

theorem Asks.bind {a : Action α} {f : α → Action β} (ha : Asks P a) (hf : ∀ x, Asks P (f x)) :
    Asks P (a >>= f) := by
  rw [Asks, run_bind]
  refine Program.Obeys.bind ha fun r _ => ?_
  cases r with
  | ok x => exact hf x
  | error e => trivial

end Action

end VaultAccess.Vault

namespace VaultAccess.Connector.Session

open Vault

variable {α β : Type} {P : Request → Prop}

/-- Once the backends are mounted, every request of the session satisfies `P`, and the outcomes
stay as they are. -/
def Asks (P : Request → Prop) (x : Session α) : Prop :=
  ∀ outcomes, Program.Obeys P (fun r => r.2 = ⟨some outcomes⟩) (x.run ⟨some outcomes⟩)

theorem Asks.pure (a : α) : Asks P (Pure.pure a) := fun _ => rfl

theorem Asks.throw (e : Fault) : Asks P (MonadExcept.throw e : Session α) := fun _ => rfl

theorem Asks.ofTask {t : Action α} (ht : t.Asks P) : Asks P (ofTask t) := by
  intro outcomes
  rw [run_ofTask]
  exact Program.Obeys.bind ht fun _ _ => rfl

theorem Asks.bind {x : Session α} {f : α → Session β} (hx : Asks P x) (hf : ∀ a, Asks P (f a)) :
    Asks P (x >>= f) := by
  intro outcomes
  rw [run_bind]
  refine Program.Obeys.bind (hx outcomes) fun r hr => ?_
  obtain ⟨r, memory⟩ := r
  cases hr
  cases r with
  | ok a => exact hf a outcomes
  | error e => rfl

theorem Asks.bootstrap (backends : List Backend) : Asks P (Session.bootstrap backends) := by
  intro outcomes
  simp [Session.bootstrap]

end VaultAccess.Connector.Session
