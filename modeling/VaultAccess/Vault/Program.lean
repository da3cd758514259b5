import VaultAccess.Vault.Exchange

/-!
# Programs that talk to the vault

A program is a tree: it asks a request and goes on with the answer, notes a log line, or is done.
What it does against any gateway, and every request it sends, can be read off the tree.
-/
namespace VaultAccess.Vault

/-- How much a log line matters. -/
inductive Level where
  | error
  | warn
  | info
  | debug
  | trace
  deriving DecidableEq, Repr

/-- A line of the log. -/
structure LogLine where
  level : Level
  text : String
  deriving DecidableEq, Repr

/-- What a gateway gives back for a request. -/
abbrev Answer := Except Fault Response

/-- A request and what was answered. -/
structure Exchange where
  request : Request
  answer : Answer

/-- A program that talks to the vault and then gives an `α`. -/
inductive Program (α : Type) where
  | done (a : α)
  | ask (request : Request) (next : Answer → Program α)
  | note (line : LogLine) (next : Program α)

namespace Program

/-- Go on with what a program gives. -/
def bind {α β : Type} (p : Program α) (f : α → Program β) : Program β :=
  match p with
  | done a => f a
  | ask r next => ask r fun answer => (next answer).bind f
  | note line next => note line (next.bind f)

instance : Monad Program where
  pure := done
  bind := bind

@[simp] theorem bind_done {α β : Type} (a : α) (f : α → Program β) :
    (done a).bind f = f a := rfl

@[simp] theorem bind_done_right {α : Type} (p : Program α) : p.bind done = p := by
  induction p with
  | done a => rfl
  | ask r next ih => simp [bind, ih]
  | note line next ih => simp [bind, ih]

theorem bind_assoc {α β γ : Type} (p : Program α) (f : α → Program β) (g : β → Program γ) :
    (p.bind f).bind g = p.bind fun a => (f a).bind g := by
  induction p with
  | done a => rfl
  | ask r next ih => simp [bind, ih]
  | note line next ih => simp [bind, ih]

/-- What answers requests and keeps the log, over a state of its own. -/
structure Gateway (σ : Type) where
  answer : Request → σ → Answer × σ
  log : LogLine → σ → σ

/-- Run a program against a gateway. -/
def run {σ α : Type} (g : Gateway σ) : Program α → σ → α × σ
  | done a, s => (a, s)
  | ask r next, s => let (answer, s) := g.answer r s; run g (next answer) s
  | note line next, s => run g next (g.log line s)

@[simp] theorem run_done {σ α : Type} (g : Gateway σ) (a : α) (s : σ) :
    (done a).run g s = (a, s) := rfl

theorem run_bind {σ α β : Type} (g : Gateway σ) (p : Program α) (f : α → Program β) (s : σ) :
    (p.bind f).run g s = (f (p.run g s).1).run g (p.run g s).2 := by
  induction p generalizing s with
  | done a => rfl
  | ask r next ih => simp [bind, run, ih]
  | note line next ih => simp [bind, run, ih]

end Program

/-- A program that may fail. -/
abbrev Action := ExceptT Fault Program

namespace Action

/-- Send a request. -/
def request (r : Request) : Action Response := .mk (.ask r .done)

/-- Note a log line. -/
def note (level : Level) (text : String) : Action Unit := .mk (.note ⟨level, text⟩ (.done (.ok ())))

/-- A result that needs no request. -/
def ofExcept {α : Type} (r : Except Fault α) : Action α := .mk (.done r)

end Action

end VaultAccess.Vault
