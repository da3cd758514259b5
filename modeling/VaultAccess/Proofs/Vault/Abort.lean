import Mathlib.Data.List.Induction
import VaultAccess.Vault.Abort

/-!
# What an abort reaches

A run is followed from its own start on: what happened before, and what happens to other runs,
leaves it as it is. So an abort reaches the runs that are under way at that moment and no others.
A run that no abort reached returns what its task gave; one that an abort reached returns that or
is cancelled, and is cancelled if its task is not done.
-/
namespace VaultAccess.Vault.Abort

variable {α : Type} {i : Nat} {events span rest : List (Event α)} {a : Except Fault α}

namespace Event

def isStart : Event α → Bool
  | start => true
  | _ => false

def isAbort : Event α → Bool
  | abort => true
  | _ => false

/-- What the task of a run gave, if this is its end. -/
def result? (i : Nat) : Event α → Option (Except Fault α)
  | finish j result => if j = i then some result else none
  | _ => none

end Event

/-- What the task of a run gave during events, if it came to its end; it does so once. -/
def taskResult? (i : Nat) (events : List (Event α)) : Option (Except Fault α) :=
  events.findSome? (Event.result? i)

theorem taskResult?_append (i : Nat) (events rest : List (Event α)) :
    taskResult? i (events ++ rest) = (taskResult? i events).or (taskResult? i rest) :=
  List.findSome?_append

/-! ## One run -/

namespace Run

/-- A run after an event under its handle: its own events and aborts concern it. -/
def follow (i : Nat) (r : Run α) : Event α → Run α
  | .start => r
  | .finish j result => if j = i then r.finish result else r
  | .abort => r.abort
  | .poll j prefersResult => if j = i then r.poll prefersResult else r

/-- A run after the events that came since its start. -/
def after (i : Nat) (events : List (Event α)) : Run α := events.foldl (follow i) start

@[simp] theorem after_nil (i : Nat) : after i ([] : List (Event α)) = start := rfl

@[simp] theorem after_concat (i : Nat) (events : List (Event α)) (e : Event α) :
    after i (events ++ [e]) = (after i events).follow i e := by
  simp [after, List.foldl_append]

/-- Whether an abort reached a run. -/
theorem isAborted_after (i : Nat) (events : List (Event α)) :
    (after i events).isAborted = true ↔ .abort ∈ events := by
  induction events using List.reverseRecOn with
  | nil => simp [start]
  | append_singleton events e ih =>
    rw [after_concat, List.mem_append, List.mem_singleton, ← ih]
    cases e with
    | start => simp [follow]
    | finish j result => by_cases h : j = i <;> simp [follow, h, finish]
    | abort => simp [follow, abort]
    | poll j prefersResult => by_cases h : j = i <;> simp [follow, h, poll]

/-- What a run knows of its task. -/
theorem result_after (i : Nat) (events : List (Event α)) :
    (after i events).result = taskResult? i events := by
  induction events using List.reverseRecOn with
  | nil => rfl
  | append_singleton events e ih =>
    rw [after_concat, taskResult?_append, ← ih]
    cases e with
    | start => simp [follow, taskResult?, Event.result?]
    | finish j result =>
      by_cases h : j = i
      · cases hresult : (after i events).result <;>
          simp [follow, h, finish, hresult, taskResult?, Event.result?]
      · simp [follow, h, taskResult?, Event.result?]
    | abort => simp [follow, abort, taskResult?, Event.result?]
    | poll j prefersResult =>
      by_cases h : j = i <;> simp [follow, h, poll, taskResult?, Event.result?]

/-- What is returned is what the task gave or, if an abort reached the run, that it was
cancelled. -/
theorem result_or_cancelled {prefersResult : Bool}
    (h : (after i events).next prefersResult = some a) :
    taskResult? i events = some a ∨ .abort ∈ events ∧ a = .error .cancelled := by
  unfold next at h
  rw [result_after] at h
  cases hresult : taskResult? i events with
  | some result =>
    simp only [hresult, Option.some.injEq] at h
    split at h
    · rename_i hchosen
      exact .inr ⟨(isAborted_after i events).mp hchosen.1, h.symm⟩
    · exact .inl (congrArg some h)
  | none =>
    simp only [hresult] at h
    split at h
    · rename_i haborted
      exact .inr ⟨(isAborted_after i events).mp haborted, (Option.some.inj h).symm⟩
    · cases h

/-- A run that was looked at with its task done and no abort, or with an abort and its task not
done, returns. -/
theorem next_of_taskResult (hnone : .abort ∉ events) (h : taskResult? i events = some a)
    (prefersResult : Bool) : (after i events).next prefersResult = some a := by
  have hreached : ¬(after i events).isAborted = true := by rwa [isAborted_after]
  simp [next, result_after, h, hreached]

theorem next_of_abort (habort : .abort ∈ events) (h : taskResult? i events = none)
    (prefersResult : Bool) : (after i events).next prefersResult = some (.error .cancelled) := by
  have hreached : (after i events).isAborted = true := (isAborted_after i events).mpr habort
  simp [next, result_after, h, hreached]

theorem answer_after_poll (i : Nat) (events : List (Event α)) (prefersResult : Bool) :
    (after i (events ++ [.poll i prefersResult])).answer =
      (after i events).answer.or ((after i events).next prefersResult) := by
  rw [after_concat]
  simp only [follow, if_true, poll]
  cases (after i events).answer <;> rfl

/-- An event other than a look at the run leaves its answer as it is. -/
theorem answer_follow (r : Run α) {e : Event α} (h : ∀ prefersResult, e ≠ .poll i prefersResult) :
    (r.follow i e).answer = r.answer := by
  cases e with
  | start => rfl
  | finish j result => by_cases hj : j = i <;> simp [follow, hj, finish]
  | abort => rfl
  | poll j prefersResult =>
    have hj : j ≠ i := fun hj => h prefersResult (hj ▸ rfl)
    simp [follow, hj]

/-- A run returns once. -/
theorem answer_after_append (h : (after i events).answer = some a) (rest : List (Event α)) :
    (after i (events ++ rest)).answer = some a := by
  induction rest using List.reverseRecOn with
  | nil => rwa [List.append_nil]
  | append_singleton rest e ih =>
    rw [← List.append_assoc]
    by_cases hpoll : ∃ prefersResult, e = .poll i prefersResult
    · obtain ⟨prefersResult, rfl⟩ := hpoll
      rw [answer_after_poll, ih, Option.some_or]
    · rw [after_concat, answer_follow _ fun prefersResult he => hpoll ⟨prefersResult, he⟩, ih]

/-- A run has returned when it was looked at, and not before. -/
theorem exists_poll (h : (after i events).answer = some a) :
    ∃ span prefersResult rest, events = span ++ .poll i prefersResult :: rest ∧
      (after i span).answer = none ∧ (after i span).next prefersResult = some a := by
  induction events using List.reverseRecOn with
  | nil => cases h
  | append_singleton events e ih =>
    cases hanswer : (after i events).answer with
    | some b =>
      have hsame : some b = some a := (answer_after_append hanswer [e]).symm.trans h
      obtain ⟨span, prefersResult, rest, rfl, hnone, hnext⟩ := ih (hanswer.trans hsame)
      exact ⟨span, prefersResult, rest ++ [e], by simp, hnone, hnext⟩
    | none =>
      by_cases hpoll : ∃ prefersResult, e = .poll i prefersResult
      · obtain ⟨prefersResult, rfl⟩ := hpoll
        rw [answer_after_poll, hanswer, Option.none_or] at h
        exact ⟨events, prefersResult, [], rfl, hanswer, h⟩
      · rw [after_concat, answer_follow _ fun prefersResult he => hpoll ⟨prefersResult, he⟩,
          hanswer] at h
        cases h

/-- Looked at with its task done and no abort since its start, a run has returned what its task
gave, now or before. -/
theorem answer_of_taskResult (hnone : .abort ∉ span) (h : taskResult? i span = some a)
    (prefersResult : Bool) (rest : List (Event α)) :
    (after i (span ++ .poll i prefersResult :: rest)).answer = some a := by
  have hhere : (after i (span ++ [.poll i prefersResult])).answer = some a := by
    rw [answer_after_poll]
    cases hbefore : (after i span).answer with
    | none => rw [Option.none_or, next_of_taskResult hnone h]
    | some b =>
      obtain ⟨early, _, late, rfl, -, hnext⟩ := exists_poll hbefore
      rcases result_or_cancelled hnext with hresult | ⟨habort, -⟩
      · rw [taskResult?_append, hresult, Option.some_or] at h
        exact h
      · exact absurd (List.mem_append_left _ habort) hnone
  have hrest := answer_after_append hhere rest
  rwa [List.append_assoc, List.singleton_append] at hrest

/-- Looked at with its task not done and an abort since its start, a run has been cancelled, now or
before. -/
theorem answer_of_abort (habort : .abort ∈ span) (h : taskResult? i span = none)
    (prefersResult : Bool) (rest : List (Event α)) :
    (after i (span ++ .poll i prefersResult :: rest)).answer = some (.error .cancelled) := by
  have hhere : (after i (span ++ [.poll i prefersResult])).answer = some (.error .cancelled) := by
    rw [answer_after_poll]
    cases hbefore : (after i span).answer with
    | none => rw [Option.none_or, next_of_abort habort h]
    | some b =>
      obtain ⟨early, _, late, rfl, -, hnext⟩ := exists_poll hbefore
      rcases result_or_cancelled hnext with hresult | ⟨-, rfl⟩
      · rw [taskResult?_append, hresult, Option.some_or] at h
        cases h
      · rfl
  have hrest := answer_after_append hhere rest
  rwa [List.append_assoc, List.singleton_append] at hrest

end Run

/-! ## Runs under a handle -/

namespace Handle

theorem steps_append (h : Handle α) (events rest : List (Event α)) :
    h.steps (events ++ rest) = (h.steps events).steps rest := List.foldl_append

theorem length_step (h : Handle α) (e : Event α) :
    (h.step e).runs.length = h.runs.length + [e].countP Event.isStart := by
  cases e <;> simp [step, Event.isStart]

theorem length_steps (h : Handle α) (events : List (Event α)) :
    (h.steps events).runs.length = h.runs.length + events.countP Event.isStart := by
  induction events generalizing h with
  | nil => rfl
  | cons e events ih =>
    have hstep : h.steps (e :: events) = (h.step e).steps events := rfl
    have hcount : (e :: events).countP Event.isStart =
        [e].countP Event.isStart + events.countP Event.isStart := by
      rw [← List.countP_append, List.singleton_append]
    rw [hstep, ih, length_step, hcount, Nat.add_assoc]

/-- An event does to a run that was started what it does to the run alone. -/
theorem getElem?_step {h : Handle α} (hi : i < h.runs.length) (e : Event α) :
    (h.step e).runs[i]? = h.runs[i]?.map fun r => r.follow i e := by
  cases e with
  | start => simp [step, Run.follow, List.getElem?_append_left hi]
  | finish j result =>
    rw [step, List.getElem?_modify]
    by_cases hj : j = i <;> simp [Run.follow, hj]
  | abort => simp [step, Run.follow]
  | poll j prefersResult =>
    rw [step, List.getElem?_modify]
    by_cases hj : j = i <;> simp [Run.follow, hj]

theorem getElem?_steps {h : Handle α} (hi : i < h.runs.length) (events : List (Event α)) :
    (h.steps events).runs[i]? = h.runs[i]?.map fun r => events.foldl (Run.follow i) r := by
  induction events generalizing h with
  | nil => simp [steps]
  | cons e events ih =>
    have hlater : i < (h.step e).runs.length := by
      rw [length_step]
      omega
    have hstep : h.steps (e :: events) = (h.step e).steps events := rfl
    rw [hstep, ih hlater, getElem?_step hi, Option.map_map]
    rfl

/-- A run is what the events since its start make of it. -/
theorem getElem?_started (before later : List (Event α)) :
    (fresh.steps (before ++ .start :: later)).runs[before.countP Event.isStart]? =
      some (Run.after (before.countP Event.isStart) later) := by
  have hlength := length_steps fresh before
  have hempty : (fresh : Handle α).runs.length = 0 := rfl
  rw [hempty, Nat.zero_add] at hlength
  have hsteps : (fresh : Handle α).steps (before ++ .start :: later) =
      ((fresh.steps before).step .start).steps later := by
    rw [steps_append]
    rfl
  have hi : before.countP Event.isStart < ((fresh.steps before).step .start).runs.length := by
    rw [length_step, hlength]
    exact Nat.lt_succ_self _
  rw [hsteps, getElem?_steps hi, ← hlength]
  simp [step, Run.after]

theorem answer?_started (before later : List (Event α)) :
    (fresh.steps (before ++ .start :: later)).answer? (before.countP Event.isStart) =
      (Run.after (before.countP Event.isStart) later).answer := by
  rw [answer?, getElem?_started]
  rfl

/-- The count of aborts wraps around with the word. -/
theorem toNat_aborts_steps (h : Handle α) (events : List (Event α)) :
    (h.steps events).aborts.toNat = (h.aborts.toNat + events.countP Event.isAbort) % UInt64.size := by
  induction events generalizing h with
  | nil => exact (Nat.mod_eq_of_lt h.aborts.toNat_lt).symm
  | cons e events ih =>
    have hstep : h.steps (e :: events) = (h.step e).steps events := rfl
    rw [hstep, ih, List.countP_cons]
    cases e with
    | abort =>
      simp only [step, UInt64.toNat_add, UInt64.toNat_one, UInt64.size, Event.isAbort, if_true]
      omega
    | start | finish | poll => simp [step, Event.isAbort]

end Handle

/-- An abort cancels what is running and nothing else. Under a handle and its clones, whatever is
started, comes to its end, is looked at or is aborted in whatever order: the handle counts its
aborts as a word does. A run returns when it is looked at; it returns what its task gave or, only if
an abort came after its start and before it returned, that it was cancelled. Looked at when its task
is done, a run that no abort reached returns what its task gave; looked at when its task is not
done, a run that an abort reached returns that it was cancelled. -/
theorem abort_reaches_running (events : List (Event α)) :
    (Handle.fresh.steps events).aborts.toNat = events.countP Event.isAbort % UInt64.size ∧
    ∀ before later, events = before ++ .start :: later →
      let i := before.countP Event.isStart
      (∀ a, (Handle.fresh.steps events).answer? i = some a →
        ∃ span prefersResult rest, later = span ++ .poll i prefersResult :: rest ∧
          (Handle.fresh.steps (before ++ .start :: span)).answer? i = none ∧
          (taskResult? i span = some a ∨ .abort ∈ span ∧ a = .error .cancelled)) ∧
      ∀ span prefersResult rest, later = span ++ .poll i prefersResult :: rest →
        (.abort ∉ span → ∀ a, taskResult? i span = some a →
          (Handle.fresh.steps events).answer? i = some a) ∧
        (.abort ∈ span → taskResult? i span = none →
          (Handle.fresh.steps events).answer? i = some (.error .cancelled)) := by
  constructor
  · have hcount := Handle.toNat_aborts_steps Handle.fresh events
    rwa [show (Handle.fresh : Handle α).aborts.toNat = 0 from rfl, Nat.zero_add] at hcount
  · rintro before later rfl i
    rw [Handle.answer?_started]
    constructor
    · intro a ha
      obtain ⟨span, prefersResult, rest, rfl, hnone, hnext⟩ := Run.exists_poll ha
      refine ⟨span, prefersResult, rest, rfl, ?_, Run.result_or_cancelled hnext⟩
      rw [Handle.answer?_started]
      exact hnone
    · rintro span prefersResult rest rfl
      constructor
      · intro hnone a hresult
        exact Run.answer_of_taskResult hnone hresult prefersResult rest
      · intro habort hresult
        exact Run.answer_of_abort habort hresult prefersResult rest

/-- Three runs and three aborts: the first abort finds nothing to cancel, the second reaches two
pending runs, of which one had its result by then, and the run that starts after it is done before
the third. -/
def threeRuns : List (Event Nat) :=
  [.abort, .start, .start, .poll 0 true, .finish 1 (.ok 7), .poll 1 true, .abort, .finish 1 (.ok 8),
    .poll 0 true, .poll 1 false, .start, .finish 2 (.ok 9), .poll 2 false, .abort]

theorem abort_reaches_running_of_threeRuns :
    (Handle.fresh.steps threeRuns).aborts.toNat = 3 ∧
      (Handle.fresh.steps threeRuns).answer? 0 = some (.error .cancelled) ∧
      (Handle.fresh.steps threeRuns).answer? 1 = some (.ok 7) ∧
      (Handle.fresh.steps threeRuns).answer? 2 = some (.ok 9) := by
  obtain ⟨haborts, hruns⟩ := abort_reaches_running threeRuns
  have hfirst := (hruns [.abort] _ rfl).2
    [.start, .poll 0 true, .finish 1 (.ok 7), .poll 1 true, .abort, .finish 1 (.ok 8)] true _ rfl
  have hsecond := (hruns [.abort, .start] _ rfl).2 [.poll 0 true, .finish 1 (.ok 7)] true _ rfl
  have hthird := (hruns (threeRuns.take 10) _ rfl).2 [.finish 2 (.ok 9)] false _ rfl
  refine ⟨haborts, hfirst.2 ?_ rfl, hsecond.1 ?_ _ rfl, hthird.1 ?_ _ rfl⟩ <;> simp

end VaultAccess.Vault.Abort
