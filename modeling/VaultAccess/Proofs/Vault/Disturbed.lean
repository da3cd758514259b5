import VaultAccess.Proofs.Vault.Acceptance

/-!
# Requests that fail on the way

A schedule says of each request in turn whether it fails, and how. Where none of its requests fails
a program runs as ever; and what a program is told of a failure is nothing that a request can do
with.
-/
namespace VaultAccess.Vault

/-- How a request fails. -/
inductive Failure where
  /-- No answer came through. -/
  | transport (status : Option Nat) (message : String)
  /-- The answer has a status between 500 and 599. -/
  | server (status : Nat) (body : Json) (isServerError : 500 ≤ status ∧ status < 600)
  | cancelled

/-- What is told of a failure. -/
def Failure.answer : Failure → Answer
  | transport status message => .error (.transport status message)
  | server status body _ => .ok ⟨status, body⟩
  | cancelled => .error .cancelled

/-- A failure is nothing that a request can do with. -/
theorem Failure.not_acceptable (f : Failure) (r : Request) :
    ¬Exchange.Acceptable ⟨r, f.answer⟩ := by
  cases f with
  | transport status message => exact fun ⟨_, hanswer, _⟩ => nomatch hanswer
  | cancelled => exact fun ⟨_, hanswer, _⟩ => nomatch hanswer
  | server status body hstatus =>
    refine Exchange.not_acceptable_of_status ?_ ?_ ?_
    · change 300 ≤ status
      omega
    · change status ≠ 404
      omega
    · change status ≠ 400
      omega

/-- A request that fails. -/
structure Disturbance where
  failure : Failure
  /-- Whether the request gets to the vault all the same. -/
  arrives : Bool

/-- What happens to each request in turn. Once the schedule is over, nothing does. -/
abbrev Schedule := List (Option Disturbance)

/-- How many requests fail. -/
def Schedule.failures (schedule : Schedule) : Nat := schedule.countP Option.isSome

namespace Program

variable {α σ : Type}

/-- A gateway that is disturbed by schedule. -/
def disturbed (g : Gateway σ) : Gateway (σ × Schedule) where
  answer r
    | (s, some d :: rest) => (d.failure.answer, if d.arrives then (g.answer r s).2 else s, rest)
    | (s, schedule) => ((g.answer r s).1, (g.answer r s).2, schedule.tail)
  log line s := (g.log line s.1, s.2)

/-- A request is answered as ever, or it fails and the vault may have got it or not. -/
theorem answer_disturbed (g : Gateway σ) (r : Request) (s : σ) (schedule : Schedule) :
    (∃ rest : Schedule, rest.failures = schedule.failures ∧
      (disturbed g).answer r (s, schedule) = ((g.answer r s).1, (g.answer r s).2, rest)) ∨
    ∃ (failure : Failure) (s' : σ) (rest : Schedule), rest.failures < schedule.failures ∧
      (s' = (g.answer r s).2 ∨ s' = s) ∧
      (disturbed g).answer r (s, schedule) = (failure.answer, s', rest) := by
  cases schedule with
  | nil => exact .inl ⟨[], rfl, rfl⟩
  | cons entry rest =>
    cases entry with
    | none => exact .inl ⟨rest, by simp [Schedule.failures], rfl⟩
    | some d =>
      refine .inr ⟨d.failure, if d.arrives then (g.answer r s).2 else s, rest, ?_, ?_, rfl⟩
      · simp [Schedule.failures]
      · cases d.arrives with
        | true => exact .inl rfl
        | false => exact .inr rfl

/-- A run has none of its requests fail and is the run without a schedule, or it was told of a
failure. -/
theorem run_disturbed (g : Gateway σ) (p : Program α) (s : σ) (schedule : Schedule) :
    (∃ rest : Schedule, rest.failures = schedule.failures ∧
      p.run (disturbed g) (s, schedule) = ((p.run g s).1, (p.run g s).2, rest)) ∨
    (p.run (disturbed g) (s, schedule)).2.2.failures < schedule.failures ∧
      ∃ x ∈ p.trace (disturbed g) (s, schedule), ¬x.Acceptable := by
  induction p generalizing s schedule with
  | done a => exact .inl ⟨schedule, rfl, rfl⟩
  | note line next ih => exact ih (g.log line s) schedule
  | ask r next ih =>
    simp only [run_ask, trace_ask]
    rcases answer_disturbed g r s schedule with
      ⟨rest, hrest, hanswer⟩ | ⟨failure, s', rest, hrest, -, hanswer⟩
    · rw [hanswer]
      rcases ih (g.answer r s).1 (g.answer r s).2 rest with
        ⟨rest', hrest', hrun⟩ | ⟨hfewer, x, hx, hnot⟩
      · exact .inl ⟨rest', hrest'.trans hrest, hrun⟩
      · exact .inr ⟨hrest ▸ hfewer, x, List.mem_cons_of_mem _ hx, hnot⟩
    · rw [hanswer]
      refine .inr ⟨?_, _, List.mem_cons_self, failure.not_acceptable r⟩
      rcases ih failure.answer s' rest with ⟨rest', hrest', hrun⟩ | ⟨hfewer, -⟩
      · rw [hrun]
        exact hrest' ▸ hrest
      · exact Nat.lt_trans hfewer hrest

end Program

end VaultAccess.Vault
