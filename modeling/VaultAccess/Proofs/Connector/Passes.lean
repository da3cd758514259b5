import VaultAccess.Backend.Bootstrap
import VaultAccess.Proofs.Vault.Replay

/-!
# Mounting passes

A pass enables the backends in order, with one request each. It ends at the first backend that is
refused, with that refusal, or with the outcomes of all backends.
-/
namespace VaultAccess

open Vault Program

variable {σ : Type}

namespace Backend

variable {b : Backend} {backends rest : List Backend} {answer : Answer}
  {xs : List Exchange} {result : Except Fault (List Outcome)}

/-- The request that enables a backend. -/
def enabling (b : Backend) : Request := .post (Endpoint.backend b) (enableBody b)

/-- What an answer to the enabling of a backend comes to. -/
def outcome (b : Backend) : Answer → Except Fault Outcome
  | .ok r => classify b r
  | .error e => .error (.bootstrap b.path e)

/-- The exchanges of a pass over backends, and what it came to. -/
inductive Pass : List Backend → List Exchange → Except Fault (List Outcome) → Prop
  | nil : Pass [] [] (.ok [])
  | refused {b : Backend} {rest : List Backend} {answer : Answer} {e : Fault}
      (h : b.outcome answer = .error e) : Pass (b :: rest) [⟨enabling b, answer⟩] (.error e)
  | step {b : Backend} {rest : List Backend} {answer : Answer} {o : Outcome}
      {xs : List Exchange} {result : Except Fault (List Outcome)} (h : b.outcome answer = .ok o)
      (hrest : Pass rest xs result) :
      Pass (b :: rest) (⟨enabling b, answer⟩ :: xs) (result.map (o :: ·))

namespace Pass

/-- The requests of a pass enable the backends in order, from the first on. -/
theorem requests (h : Pass backends xs result) :
    xs.map Exchange.request = (backends.take xs.length).map enabling := by
  induction h with
  | nil => rfl
  | refused _ => rfl
  | step _ _ ih => simpa using ih

/-- Every request of a pass is that of the backend at its place, and where it is refused the pass
ends with the refusal. -/
theorem getElem? (h : Pass backends xs result) {i : Nat} {x : Exchange} (hx : xs[i]? = some x) :
    ∃ b, backends[i]? = some b ∧ x.request = enabling b ∧
      ∀ e, b.outcome x.answer = .error e → xs.length = i + 1 ∧ result = .error e := by
  induction h generalizing i with
  | nil => cases hx
  | @refused b rest answer e hb =>
    cases i with
    | zero =>
      cases hx
      refine ⟨b, rfl, rfl, fun e' he' => ⟨rfl, ?_⟩⟩
      obtain rfl : e = e' := Except.error.inj (hb.symm.trans he')
      rfl
    | succ i => cases hx
  | @step b rest answer o xs result hb _ ih =>
    cases i with
    | zero =>
      cases hx
      exact ⟨b, rfl, rfl, fun e he => by rw [hb] at he; cases he⟩
    | succ i =>
      obtain ⟨b', hi, hrequest, hrefused⟩ := ih hx
      refine ⟨b', hi, hrequest, fun e he => ?_⟩
      obtain ⟨hlength, rfl⟩ := hrefused e he
      exact ⟨by rw [List.length_cons, hlength], rfl⟩

/-- A pass that was refused a backend ends there, with the refusal. -/
theorem ends_refused (h : Pass backends xs result) {i : Nat} {x : Exchange} {e : Fault}
    (hb : backends[i]? = some b) (hx : xs[i]? = some x) (hrefused : b.outcome x.answer = .error e) :
    xs.length = i + 1 ∧ result = .error e := by
  obtain ⟨b', hb', -, hends⟩ := h.getElem? hx
  obtain rfl : b' = b := Option.some.inj (hb'.symm.trans hb)
  exact hends e hrefused

/-- Where a pass fails, one of its requests was refused. -/
theorem exists_refused {e : Fault} (h : Pass backends xs (.error e)) :
    ∃ b ∈ backends, ∃ x ∈ xs, x.request = enabling b ∧ b.outcome x.answer = .error e := by
  generalize hresult : Except.error e = result at h
  induction h with
  | nil => cases hresult
  | @refused b rest answer e' hb =>
    cases hresult
    exact ⟨b, List.mem_cons_self, _, List.mem_cons_self, rfl, hb⟩
  | @step b rest answer o xs result _ _ ih =>
    cases result with
    | ok outcomes => cases hresult
    | error e' =>
      cases hresult
      obtain ⟨b', hb', x, hx, hrequest, hrefused⟩ := ih rfl
      exact ⟨b', List.mem_cons_of_mem _ hb', x, List.mem_cons_of_mem _ hx, hrequest, hrefused⟩

/-- Where a pass succeeds, every backend was mounted by one of its requests. -/
theorem exists_mounted {outcomes : List Outcome} (h : Pass backends xs (.ok outcomes)) :
    ∀ b ∈ backends, ∃ x ∈ xs, x.request = enabling b ∧ ∃ o, b.outcome x.answer = .ok o := by
  generalize hresult : Except.ok outcomes = result at h
  induction h generalizing outcomes with
  | nil => simp
  | refused _ => cases hresult
  | @step b rest answer o xs result hb _ ih =>
    cases result with
    | error e => cases hresult
    | ok os =>
      refine List.forall_mem_cons.mpr ⟨⟨_, List.mem_cons_self, rfl, o, hb⟩, fun b' hb' => ?_⟩
      obtain ⟨x, hx, hmounted⟩ := ih rfl b' hb'
      exact ⟨x, List.mem_cons_of_mem _ hx, hmounted⟩

end Pass

/-! ## Passes as programs -/

/-- Mounting a backend is one request, and what is answered decides the rest. -/
theorem run_ensure (b : Backend) :
    ∃ next, (ensure b).run = ask (enabling b) next ∧
      ∀ answer, (next answer).Obeys (fun _ => False) (· = b.outcome answer) := by
  refine ⟨_, by
    simp only [ensure, enableBackend, Action.run_bind, Action.run_tryCatch, Action.run_request,
      ask_bind, bind_done]
    rfl, fun answer => ?_⟩
  cases answer with
  | error e => rfl
  | ok r =>
    simp only [Action.orElse, bind_done, Action.andThen_ok, outcome]
    cases classify b r with
    | error e => rfl
    | ok o => cases o <;> rfl

/-- A pass asks for nothing but the enabling of backends. -/
theorem ensureAll_asks (backends : List Backend) :
    (ensureAll backends).Asks fun r => ∃ b, r = enabling b := by
  induction backends with
  | nil => exact .pure _
  | cons b backends ih =>
    obtain ⟨next, hrun, hnext⟩ := run_ensure b
    have hensure : (ensure b).Asks fun r => ∃ b, r = enabling b := by
      rw [Action.Asks, hrun]
      exact ⟨⟨b, rfl⟩, fun answer => (hnext answer).imp (fun _ h => h.elim) fun _ _ => trivial⟩
    exact .bind hensure fun _ => .bind ih fun _ => .pure _

/-- Mounting a backend, under way, has asked nothing yet or all there is to ask; what is left then
asks nothing and gives what the answer comes to. -/
theorem plays_ensure {q : Program (Except Fault Outcome)} (h : Plays (ensure b).run xs q) :
    xs = [] ∧ q = (ensure b).run ∨
      ∃ answer, xs = [⟨enabling b, answer⟩] ∧
        q.Obeys (fun _ => False) (· = b.outcome answer) := by
  obtain ⟨next, hrun, hnext⟩ := run_ensure b
  rw [hrun] at h ⊢
  cases h with
  | stop => exact .inl ⟨rfl, rfl⟩
  | @ask _ _ answer _ ys hplays =>
    obtain ⟨hnone, hq⟩ := (hnext answer).plays hplays
    obtain rfl : ys = [] := List.eq_nil_iff_forall_not_mem.mpr hnone
    exact .inr ⟨answer, rfl, hq⟩

/-- Mounting a backend, when it is done, has asked once and gives what the answer comes to. -/
theorem plays_ensure_done {r : Except Fault Outcome} (h : Plays (ensure b).run xs (done r)) :
    ∃ answer, xs = [⟨enabling b, answer⟩] ∧ b.outcome answer = r := by
  rcases plays_ensure h with ⟨-, hq⟩ | ⟨answer, hxs, hr⟩
  · obtain ⟨next, hrun, -⟩ := run_ensure b
    rw [hrun] at hq
    cases hq
  · exact ⟨answer, hxs, Eq.symm hr⟩

/-- What a pass does after a backend. -/
def afterBackend (rest : List Backend) (o : Outcome) : Action (List Outcome) := do
  let outcomes ← ensureAll rest
  return o :: outcomes

theorem run_ensureAll_cons (b : Backend) (rest : List Backend) :
    (ensureAll (b :: rest)).run = (ensure b).run.bind (Action.andThen (afterBackend rest)) := by
  rw [ensureAll, Action.run_bind]
  rfl

/-- Nothing is asked to give what an action gave another form. -/
theorem plays_return {α β : Type} {f : α → β} {r : Except Fault α}
    {q : Program (Except Fault β)} (h : Plays (Action.andThen (fun a => return f a) r) xs q) :
    xs = [] ∧ q = done (r.map f) := by
  cases r <;> cases h <;> exact ⟨rfl, rfl⟩

/-- A pass under way has asked nothing yet, has asked to enable its first backend, or has mounted
that backend and is under way with the rest. A refusal of what it is at is where it ends. -/
theorem plays_ensureAll_cons {q : Program (Except Fault (List Outcome))}
    (h : Plays (ensureAll (b :: rest)).run xs q) :
    xs = [] ∨
      (∃ answer, xs = [⟨enabling b, answer⟩] ∧ ∀ e, b.outcome answer = .error e →
        q.Obeys (fun _ => False) (· = .error e)) ∨
      ∃ answer o ys p, xs = ⟨enabling b, answer⟩ :: ys ∧ b.outcome answer = .ok o ∧
        Plays (ensureAll rest).run ys p ∧ ∀ e, p.Obeys (fun _ => False) (· = .error e) →
          q.Obeys (fun _ => False) (· = .error e) := by
  rw [run_ensureAll_cons] at h
  rcases h.of_bind with ⟨p, hp, rfl⟩ | ⟨r, ys, zs, rfl, hp, hrest⟩
  · rcases plays_ensure hp with ⟨rfl, -⟩ | ⟨answer, rfl, hanswer⟩
    · exact .inl rfl
    · refine .inr (.inl ⟨answer, rfl, fun e he => hanswer.bind ?_⟩)
      rintro r rfl
      rw [he]
      rfl
  · obtain ⟨answer, rfl, hanswer⟩ := plays_ensure_done hp
    cases r with
    | error e' =>
      cases hrest
      refine .inr (.inl ⟨answer, rfl, fun e he => ?_⟩)
      exact congrArg _ (Except.error.inj (hanswer.symm.trans he))
    | ok o =>
      rw [Action.andThen_ok, afterBackend, Action.run_bind] at hrest
      rcases hrest.of_bind with ⟨p, hp', rfl⟩ | ⟨r, ys, zs, rfl, hp', hlast⟩
      · refine .inr (.inr ⟨answer, o, _, p, rfl, hanswer, hp', fun e he => he.bind ?_⟩)
        rintro r rfl
        rfl
      · obtain ⟨rfl, rfl⟩ := plays_return hlast
        rw [List.append_nil]
        refine .inr (.inr ⟨answer, o, ys, _, rfl, hanswer, hp', fun e he => ?_⟩)
        obtain rfl : r = .error e := he
        rfl

/-- A pass under way has enabled the first backends in order. -/
theorem requests_of_plays {q : Program (Except Fault (List Outcome))}
    (h : Plays (ensureAll backends).run xs q) :
    xs.map Exchange.request = (backends.take xs.length).map enabling := by
  induction backends generalizing xs q with
  | nil =>
    cases h
    rfl
  | cons b rest ih =>
    rcases plays_ensureAll_cons h with rfl | ⟨answer, rfl, -⟩ | ⟨answer, o, ys, p, rfl, -, hp, -⟩
    · rfl
    · rfl
    · simpa using ih hp

/-- A pass under way that was refused asks nothing else, and fails with the refusal. -/
theorem plays_refused {q : Program (Except Fault (List Outcome))}
    (h : Plays (ensureAll backends).run xs q) {i : Nat} {x : Exchange} {e : Fault}
    (hb : backends[i]? = some b) (hx : xs[i]? = some x) (hrefused : b.outcome x.answer = .error e) :
    xs.length = i + 1 ∧ q.Obeys (fun _ => False) (· = .error e) := by
  induction backends generalizing xs q i with
  | nil => cases hb
  | cons first rest ih =>
    rcases plays_ensureAll_cons h with
      rfl | ⟨answer, rfl, hends⟩ | ⟨answer, o, ys, p, rfl, hmounted, hp, hends⟩
    · cases hx
    · cases i with
      | zero =>
        cases hb
        cases hx
        exact ⟨rfl, hends e hrefused⟩
      | succ i => cases hx
    · cases i with
      | zero =>
        cases hb
        cases hx
        rw [hmounted] at hrefused
        cases hrefused
      | succ i =>
        obtain ⟨hlength, hq⟩ := ih hp hb hx
        exact ⟨by rw [List.length_cons, hlength], hends e hq⟩

/-- A pass that is done is a pass. -/
theorem pass_of_plays (h : Plays (ensureAll backends).run xs (done result)) :
    Pass backends xs result := by
  induction backends generalizing xs result with
  | nil =>
    cases h
    exact .nil
  | cons b rest ih =>
    rw [run_ensureAll_cons] at h
    obtain ⟨r, ys, zs, rfl, hp, hrest⟩ := h.of_bind_done
    obtain ⟨answer, rfl, hanswer⟩ := plays_ensure_done hp
    cases r with
    | error e =>
      cases hrest
      exact .refused hanswer
    | ok o =>
      rw [Action.andThen_ok, afterBackend, Action.run_bind] at hrest
      obtain ⟨r', ys', zs', rfl, hp', hlast⟩ := hrest.of_bind_done
      have hstep := Pass.step hanswer (ih hp')
      obtain ⟨rfl, hresult⟩ := plays_return hlast
      rw [List.append_nil, done.inj hresult]
      exact hstep

/-- A run of a pass is a pass. -/
theorem pass_of_run (backends : List Backend) (g : Gateway σ) (s : σ) :
    Pass backends ((ensureAll backends).run.trace g s) ((ensureAll backends).run.run g s).1 :=
  pass_of_plays (plays_trace _ g s)

theorem plays_ensure_outcome (b : Backend) (answer : Answer) :
    Plays (ensure b).run [⟨enabling b, answer⟩] (done (b.outcome answer)) := by
  obtain ⟨next, hrun, hnext⟩ := run_ensure b
  rw [hrun]
  exact .ask (hnext answer).plays_done

/-- A pass is played by the program that mounts the backends. -/
theorem Pass.plays (h : Pass backends xs result) :
    Plays (ensureAll backends).run xs (done result) := by
  induction h with
  | nil => exact .stop _
  | @refused b rest answer e hb =>
    have hfirst := plays_ensure_outcome b answer
    rw [hb] at hfirst
    rw [run_ensureAll_cons]
    exact hfirst.bind (.stop _)
  | @step b rest answer o xs result hb _ ih =>
    have hfirst := plays_ensure_outcome b answer
    rw [hb] at hfirst
    have hrest : Plays (afterBackend rest o).run (xs ++ []) (done (result.map (o :: ·))) := by
      rw [afterBackend, Action.run_bind]
      refine ih.bind ?_
      cases result <;> exact .stop _
    rw [List.append_nil] at hrest
    rw [run_ensureAll_cons]
    exact hfirst.bind hrest

end Backend

end VaultAccess
