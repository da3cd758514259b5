import VaultAccess.Connector.Session

/-!
# Running actions and sessions

An action is a program of a result that may be a fault, and a session is such a program for every
memory. The lemmas below push running through the two monads, down to the requests.
-/
namespace VaultAccess

open Vault

namespace Vault.Program

variable {α β σ : Type}

@[simp] theorem pure_eq_done (a : α) : (pure a : Program α) = done a := rfl

@[simp] theorem bind_eq_bind (p : Program α) (f : α → Program β) : p >>= f = p.bind f := rfl

@[simp] theorem map_eq_bind (f : α → β) (p : Program α) :
    f <$> p = p.bind fun a => done (f a) := rfl

@[simp] theorem ask_bind (r : Request) (next : Answer → Program α) (f : α → Program β) :
    (ask r next).bind f = ask r fun answer => (next answer).bind f := rfl

@[simp] theorem note_bind (line : LogLine) (next : Program α) (f : α → Program β) :
    (note line next).bind f = note line (next.bind f) := rfl

@[simp] theorem run_ask (g : Gateway σ) (r : Request) (next : Answer → Program α) (s : σ) :
    (ask r next).run g s = (next (g.answer r s).1).run g (g.answer r s).2 := rfl

@[simp] theorem run_note (g : Gateway σ) (line : LogLine) (next : Program α) (s : σ) :
    (note line next).run g s = next.run g (g.log line s) := rfl

instance : LawfulMonad Program :=
  LawfulMonad.mk' Program bind_done_right (fun _ _ => rfl) bind_assoc

end Vault.Program

namespace Vault.Action

open Program

variable {α β σ : Type}

/-- Go on with what an action gave, unless it failed. -/
def andThen (f : α → Action β) : Except Fault α → Program (Except Fault β)
  | .ok a => (f a).run
  | .error e => .done (.error e)

@[simp] theorem andThen_ok (f : α → Action β) (a : α) : andThen f (.ok a) = (f a).run := rfl

@[simp] theorem andThen_error (f : α → Action β) (e : Fault) :
    andThen f (.error e) = done (.error e) := rfl

@[simp] theorem run_pure (a : α) : (pure a : Action α).run = done (.ok a) := rfl

@[simp] theorem run_throw (e : Fault) : (throw e : Action α).run = done (.error e) := rfl

@[simp] theorem run_request (r : Request) : (request r).run = ask r done := rfl

@[simp] theorem run_note (level : Level) (text : String) :
    (note level text).run = .note ⟨level, text⟩ (.done (.ok ())) := rfl

@[simp] theorem run_ofExcept (r : Except Fault α) : (ofExcept r).run = done r := rfl

@[simp] theorem run_lift (p : Program α) :
    (ExceptT.lift p : Action α).run = p.bind fun a => done (.ok a) := rfl

/-- Go on with what an action gave, or handle its fault. -/
def orElse (handle : Fault → Action α) : Except Fault α → Program (Except Fault α)
  | .ok a => done (.ok a)
  | .error e => (handle e).run

@[simp] theorem run_tryCatch (a : Action α) (handle : Fault → Action α) :
    (tryCatch a handle).run = a.run.bind (orElse handle) := by
  change a.run.bind _ = a.run.bind _
  congr 1
  funext r
  cases r <;> rfl

@[simp] theorem run_bind (a : Action α) (f : α → Action β) :
    (a >>= f).run = a.run.bind (andThen f) := by
  change a.run.bind _ = a.run.bind _
  congr 1
  funext r
  cases r <;> rfl

/-- The result of an action against a gateway, and the state it leaves. -/
def on (a : Action α) (g : Gateway σ) (s : σ) : Except Fault α × σ := a.run.run g s

@[simp] theorem on_pure (g : Gateway σ) (a : α) (s : σ) :
    (pure a : Action α).on g s = (.ok a, s) := rfl

@[simp] theorem on_throw (g : Gateway σ) (e : Fault) (s : σ) :
    (throw e : Action α).on g s = (.error e, s) := rfl

@[simp] theorem on_request (g : Gateway σ) (r : Request) (s : σ) :
    (request r).on g s = g.answer r s := rfl

@[simp] theorem on_note (g : Gateway σ) (level : Level) (text : String) (s : σ) :
    (note level text).on g s = (.ok (), g.log ⟨level, text⟩ s) := rfl

@[simp] theorem on_ofExcept (g : Gateway σ) (r : Except Fault α) (s : σ) :
    (ofExcept r).on g s = (r, s) := rfl

theorem on_bind (g : Gateway σ) (a : Action α) (f : α → Action β) (s : σ) :
    (a >>= f).on g s = (andThen f (a.on g s).1).run g (a.on g s).2 := by
  rw [on, Action.run_bind, Program.run_bind]
  rfl

theorem on_bind_of_ok {g : Gateway σ} {a : Action α} {s s' : σ} {x : α} (f : α → Action β)
    (h : a.on g s = (.ok x, s')) : (a >>= f).on g s = (f x).on g s' := by
  rw [on_bind, h]
  rfl

end Vault.Action

namespace Connector.Session

open Program

variable {α β σ : Type}

/-- Go on with what a session gave, in the memory it left, unless it failed. -/
def andThen (f : α → Session β) :
    Except Fault α × Memory → Program (Except Fault β × Memory)
  | (.ok a, memory) => (f a).run memory
  | (.error e, memory) => .done (.error e, memory)

@[simp] theorem andThen_ok (f : α → Session β) (a : α) (memory : Memory) :
    andThen f (.ok a, memory) = (f a).run memory := rfl

@[simp] theorem andThen_error (f : α → Session β) (e : Fault) (memory : Memory) :
    andThen f (.error e, memory) = done (.error e, memory) := rfl

@[simp] theorem run_pure (a : α) (memory : Memory) :
    (pure a : Session α).run memory = done (.ok a, memory) := rfl

@[simp] theorem run_throw (e : Fault) (memory : Memory) :
    (throw e : Session α).run memory = done (.error e, memory) := rfl

@[simp] theorem run_get (memory : Memory) :
    (get : Session Memory).run memory = done (.ok memory, memory) := rfl

@[simp] theorem run_set (memory memory' : Memory) :
    (set memory' : Session PUnit).run memory = done (.ok ⟨⟩, memory') := rfl

@[simp] theorem run_ofTask (t : Action α) (memory : Memory) :
    (ofTask t).run memory = t.run.bind fun r => done (r, memory) := rfl

@[simp] theorem run_bind (x : Session α) (f : α → Session β) (memory : Memory) :
    (x >>= f).run memory = Program.bind (x.run memory) (andThen f) := by
  change Program.bind (x.run memory) _ = Program.bind (x.run memory) _
  congr 1
  funext r
  obtain ⟨r, memory'⟩ := r
  cases r <;> rfl

end Connector.Session

end VaultAccess
