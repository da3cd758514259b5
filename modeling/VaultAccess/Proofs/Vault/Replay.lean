import VaultAccess.Proofs.Vault.Trace

/-!
# Programs under way

A program that has had some of its requests answered is left with the rest of itself. The relation
below leads from a program over exchanges to what is left; it says what a program has done when
others run beside it, where no gateway state carries a single run.
-/
namespace VaultAccess.Vault.Program

variable {α β σ : Type}

/-- A program, answered as in these exchanges, has asked them in order and nothing else, and the
other program is left. -/
inductive Plays : Program α → List Exchange → Program α → Prop
  | stop (p : Program α) : Plays p [] p
  | note {line : LogLine} {next q : Program α} {xs : List Exchange} (h : Plays next xs q) :
      Plays (note line next) xs q
  | ask {r : Request} {next : Answer → Program α} {answer : Answer} {q : Program α}
      {xs : List Exchange} (h : Plays (next answer) xs q) :
      Plays (ask r next) (⟨r, answer⟩ :: xs) q

theorem Plays.append {p q r : Program α} {xs ys : List Exchange} (hp : Plays p xs q)
    (hq : Plays q ys r) : Plays p (xs ++ ys) r := by
  induction hp with
  | stop p => exact hq
  | note _ ih => exact .note (ih hq)
  | ask _ ih => exact .ask (ih hq)

/-- What is left asks its next request. -/
theorem Plays.answered {p : Program α} {xs : List Exchange} {r : Request}
    {next : Answer → Program α} (h : Plays p xs (.ask r next)) (answer : Answer) :
    Plays p (xs ++ [⟨r, answer⟩]) (next answer) :=
  h.append (.ask (.stop _))

/-- What is left notes its next line. -/
theorem Plays.noted {p : Program α} {xs : List Exchange} {line : LogLine} {next : Program α}
    (h : Plays p xs (.note line next)) : Plays p xs next := by
  have hnext := h.append (.note (.stop next))
  rwa [List.append_nil] at hnext

theorem Plays.bind {p : Program α} {f : α → Program β} {xs ys : List Exchange} {a : α}
    {q : Program β} (hp : Plays p xs (done a)) (hf : Plays (f a) ys q) :
    Plays (p.bind f) (xs ++ ys) q := by
  induction p generalizing xs with
  | done b =>
    cases hp
    exact hf
  | ask r next ih =>
    cases hp with
    | ask hnext => exact .ask (ih _ hnext)
  | note line next ih =>
    cases hp with
    | note hnext => exact .note (ih hnext)

/-- A sequence under way is in its first part, or has done it and is in the second. -/
theorem Plays.of_bind {p : Program α} {f : α → Program β} {xs : List Exchange} {q : Program β}
    (h : Plays (p.bind f) xs q) :
    (∃ p', Plays p xs p' ∧ q = p'.bind f) ∨
      ∃ a ys zs, xs = ys ++ zs ∧ Plays p ys (done a) ∧ Plays (f a) zs q := by
  induction p generalizing xs with
  | done a => exact .inr ⟨a, [], xs, rfl, .stop _, h⟩
  | ask r next ih =>
    cases h with
    | stop => exact .inl ⟨.ask r next, .stop _, rfl⟩
    | ask hnext =>
      rcases ih _ hnext with ⟨p', hp, rfl⟩ | ⟨a, ys, zs, rfl, hp, hf⟩
      · exact .inl ⟨p', .ask hp, rfl⟩
      · exact .inr ⟨a, _, zs, rfl, .ask hp, hf⟩
  | note line next ih =>
    cases h with
    | stop => exact .inl ⟨.note line next, .stop _, rfl⟩
    | note hnext =>
      rcases ih hnext with ⟨p', hp, rfl⟩ | ⟨a, ys, zs, rfl, hp, hf⟩
      · exact .inl ⟨p', .note hp, rfl⟩
      · exact .inr ⟨a, ys, zs, rfl, .note hp, hf⟩

/-- A sequence that is done has done both its parts. -/
theorem Plays.of_bind_done {p : Program α} {f : α → Program β} {xs : List Exchange} {b : β}
    (h : Plays (p.bind f) xs (done b)) :
    ∃ a ys zs, xs = ys ++ zs ∧ Plays p ys (done a) ∧ Plays (f a) zs (done b) := by
  rcases h.of_bind with ⟨p', hp, hq⟩ | hparts
  · cases p' with
    | done a => exact ⟨a, xs, [], by simp, hp, hq ▸ .stop _⟩
    | ask r next => cases hq
    | note line next => cases hq
  · exact hparts

/-- A run plays its exchanges down to its result. -/
theorem plays_trace (p : Program α) (g : Gateway σ) (s : σ) :
    Plays p (p.trace g s) (done (p.run g s).1) := by
  induction p generalizing s with
  | done a => exact .stop _
  | ask r next ih => exact .ask (ih _ _)
  | note line next ih => exact .note (ih _)

/-- What was asked is of the sort that the program asks, and so is what is left. -/
theorem Obeys.plays {P : Request → Prop} {Q : α → Prop} {p q : Program α} {xs : List Exchange}
    (hp : p.Obeys P Q) (h : Plays p xs q) : (∀ x ∈ xs, P x.request) ∧ q.Obeys P Q := by
  induction h with
  | stop p => exact ⟨by simp, hp⟩
  | note _ ih => exact ih hp
  | @ask r next answer q xs _ ih =>
    obtain ⟨hxs, hq⟩ := ih (hp.2 answer)
    exact ⟨by simpa using ⟨hp.1, hxs⟩, hq⟩

/-- A program that asks nothing plays down to its result. -/
theorem Obeys.plays_done {p : Program α} {a : α}
    (h : p.Obeys (fun _ => False) (· = a)) : Plays p [] (done a) := by
  induction p with
  | done b =>
    obtain rfl : b = a := h
    exact .stop _
  | ask r next ih => exact h.1.elim
  | note line next ih => exact .note (ih h)

end VaultAccess.Vault.Program

namespace VaultAccess.Vault.Action

open Program

variable {α β : Type} {a : Action α} {f : α → Action β} {xs : List Exchange}

/-! ## Actions that are done -/

theorem plays_pure {x : α} {r : Except Fault α} (h : Plays (pure x : Action α).run xs (done r)) :
    xs = [] ∧ r = .ok x := by
  cases h
  exact ⟨rfl, rfl⟩

theorem plays_throw {e : Fault} {r : Except Fault α}
    (h : Plays (throw e : Action α).run xs (done r)) : xs = [] ∧ r = .error e := by
  cases h
  exact ⟨rfl, rfl⟩

theorem plays_ofExcept {x r : Except Fault α} (h : Plays (ofExcept x).run xs (done r)) :
    xs = [] ∧ r = x := by
  cases h
  exact ⟨rfl, rfl⟩

theorem plays_note {level : Level} {text : String} {r : Except Fault Unit}
    (h : Plays (note level text).run xs (done r)) : xs = [] ∧ r = .ok () := by
  cases h with
  | note hnext =>
    cases hnext
    exact ⟨rfl, rfl⟩

theorem plays_request {request : Request} {r : Except Fault Response}
    (h : Plays (Action.request request).run xs (done r)) :
    ∃ answer, xs = [⟨request, answer⟩] ∧ r = answer := by
  cases h with
  | ask hnext =>
    cases hnext
    exact ⟨_, rfl, rfl⟩

/-- A sequence that is done has failed in its first part, or has done both. -/
theorem plays_bind {r : Except Fault β} (h : Plays (a >>= f).run xs (done r)) :
    (∃ e, Plays a.run xs (done (.error e)) ∧ r = .error e) ∨
      ∃ x ys zs, xs = ys ++ zs ∧ Plays a.run ys (done (.ok x)) ∧ Plays (f x).run zs (done r) := by
  rw [run_bind] at h
  obtain ⟨ra, ys, zs, rfl, ha, hf⟩ := h.of_bind_done
  cases ra with
  | ok x => exact .inr ⟨x, ys, zs, rfl, ha, hf⟩
  | error e =>
    cases hf
    exact .inl ⟨e, by rwa [List.append_nil], rfl⟩

/-- To give what was given another form asks nothing. -/
theorem plays_map {g : α → β} {r : Except Fault β}
    (h : Plays (a >>= fun x => pure (g x)).run xs (done r)) :
    ∃ ra, Plays a.run xs (done ra) ∧ r = ra.map g := by
  rcases plays_bind h with ⟨e, ha, rfl⟩ | ⟨x, ys, zs, rfl, ha, hpure⟩
  · exact ⟨_, ha, rfl⟩
  · obtain ⟨rfl, rfl⟩ := plays_pure hpure
    exact ⟨_, by rwa [List.append_nil], rfl⟩

/-- What comes after a result that needs no request. -/
theorem plays_ofExcept_bind {x : Except Fault α} {r : Except Fault β}
    (h : Plays (ofExcept x >>= f).run xs (done r)) :
    (∃ e, x = .error e ∧ xs = [] ∧ r = .error e) ∨
      ∃ y, x = .ok y ∧ Plays (f y).run xs (done r) := by
  rcases plays_bind h with ⟨e, hfirst, rfl⟩ | ⟨y, ys, zs, rfl, hfirst, hf⟩
  · obtain ⟨rfl, hx⟩ := plays_ofExcept hfirst
    exact .inl ⟨e, hx.symm, rfl, rfl⟩
  · obtain ⟨rfl, hx⟩ := plays_ofExcept hfirst
    exact .inr ⟨y, hx.symm, hf⟩

end VaultAccess.Vault.Action
