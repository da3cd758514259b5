import Mathlib.Control.Monad.Basic
import VaultAccess.Proofs.Connector.Change
import VaultAccess.Proofs.Connector.Exclusion
import VaultAccess.Proofs.Vault.Server

/-!
# Changes take turns

However the steps of changes interleave, every change comes to what it comes to when the changes
run one at a time in the order in which they acquired their locks, and so does every user.
-/
namespace VaultAccess.Membership

open Vault Program

namespace Stage

/-- What a change that gave its lock back came to. -/
def outcome? : Stage → Option (Except Fault Unit)
  | released _ result | dropped result | done result => some result
  | start | waiting _ | inside _ _ => none

/-- Whether a change has not had its lock. -/
def isAhead : Stage → Bool
  | start | waiting _ => true
  | inside _ _ | released _ _ | dropped _ | done _ => false

end Stage

namespace Locks

variable {σ κ ι : Type}

/-- What a change of one user reads and writes, `cell` of the user and `own` of the change, and
that it touches nothing else. -/
structure Separates (g : Nat → Gateway σ) (cell : String → σ → κ) (own : Nat → σ → ι) : Prop where
  agree : ∀ {user : String} {r : Request} {i : Nat} {v w : σ}, Concerns user r →
    cell user v = cell user w → own i v = own i w →
    ((g i).answer r v).1 = ((g i).answer r w).1 ∧
      cell user ((g i).answer r v).2 = cell user ((g i).answer r w).2 ∧
      own i ((g i).answer r v).2 = own i ((g i).answer r w).2
  cell_answer : ∀ {user other : String} {r : Request} (i : Nat) (v : σ), Concerns user r →
    other ≠ user → cell other ((g i).answer r v).2 = cell other v
  own_answer : ∀ {i j : Nat} (r : Request) (v : σ), j ≠ i →
    own j ((g i).answer r v).2 = own j v
  cell_log : ∀ (user : String) (i : Nat) (line : LogLine) (v : σ),
    cell user ((g i).log line v) = cell user v
  own_log : ∀ (i j : Nat) (line : LogLine) (v : σ), own j ((g i).log line v) = own j v

section programs

variable {g : Nat → Gateway σ} {cell : String → σ → κ} {own : Nat → σ → ι}
  {p : Program (Except Fault Unit)} {user other : String} {i j : Nat}

/-- A program about one user sees nothing but the user's cell and what is its own. -/
theorem Separates.run_agree (h : Separates g cell own)
    (hp : p.Obeys (Concerns user) fun _ => True) {v w : σ} (hcell : cell user v = cell user w)
    (hown : own i v = own i w) :
    (p.run (g i) v).1 = (p.run (g i) w).1 ∧
      cell user (p.run (g i) v).2 = cell user (p.run (g i) w).2 := by
  induction p generalizing v w with
  | done a => exact ⟨rfl, hcell⟩
  | ask r next ih =>
    obtain ⟨hanswer, hcell', hown'⟩ := h.agree hp.1 hcell hown
    rw [run_ask, run_ask, hanswer]
    exact ih _ (hp.2 _) hcell' hown'
  | note line next ih =>
    refine ih hp ?_ ?_
    · rw [h.cell_log, h.cell_log, hcell]
    · rw [h.own_log, h.own_log, hown]

/-- A program about one user leaves the others alone. -/
theorem Separates.run_cell (h : Separates g cell own)
    (hp : p.Obeys (Concerns user) fun _ => True) (hne : other ≠ user) (i : Nat) (v : σ) :
    cell other (p.run (g i) v).2 = cell other v := by
  induction p generalizing v with
  | done a => rfl
  | ask r next ih => rw [run_ask, ih _ (hp.2 _), h.cell_answer i v hp.1 hne]
  | note line next ih => rw [run_note, ih hp, h.cell_log]

/-- A program leaves alone what is another change's own. -/
theorem Separates.run_own (h : Separates g cell own) (hne : j ≠ i)
    (p : Program (Except Fault Unit)) (v : σ) : own j (p.run (g i) v).2 = own j v := by
  induction p generalizing v with
  | done a => rfl
  | ask r next ih => rw [run_ask, ih, h.own_answer r v hne]
  | note line next ih => rw [run_note, ih, h.own_log]

end programs

/-! ## One at a time -/

/-- What changes came to, in their order, and the state they left. -/
structure Outcome (σ : Type) where
  results : List (Nat × Except Fault Unit)
  vault : σ

/-- Run one change as a whole. -/
def turn (g : Nat → Gateway σ) (calls : List (Change × String × String)) (o : Outcome σ)
    (i : Nat) : Outcome σ :=
  match calls[i]? with
  | none => o
  | some (change, user, policy) =>
    let (result, vault) := (underLock change user policy).on (g i) o.vault
    ⟨o.results ++ [(i, result)], vault⟩

/-- Run changes one at a time, in the given order. -/
def inTurn (g : Nat → Gateway σ) (calls : List (Change × String × String)) (order : List Nat)
    (vault : σ) : Outcome σ :=
  order.foldl (turn g calls) ⟨[], vault⟩

/-- Whether a change waits for its lock. -/
def isWaiting (s : Locks σ) (i : Nat) : Bool :=
  match s.calls[i]? with
  | some ⟨_, _, _, .waiting _⟩ => true
  | _ => false

/-- The changes in the order in which they acquire their locks when these take steps. -/
def turns (g : Nat → Gateway σ) (s : Locks σ) : List Nat → List Nat
  | [] => []
  | i :: order =>
    match step (g i) s i with
    | none => []
    | some s' => if s.isWaiting i then i :: turns g s' order else turns g s' order

/-! ## The invariant -/

/-- How a state with changes under way relates to the changes that had their locks, run one at a
time: a user on whom no one works is as they left the user, and whoever is inside will leave the
user so and come to what is recorded. -/
structure Serial (g : Nat → Gateway σ) (cell : String → σ → κ) (own : Nat → σ → ι) (s : Locks σ)
    (o : Outcome σ) : Prop where
  free : ∀ user, (∀ (j : Nat) (d : Call), s.calls[j]? = some d → d.user = user →
    d.stage.held? = none) → cell user s.vault = cell user o.vault
  inside : ∀ (j : Nat) (d : Call) lock p, s.calls[j]? = some d → d.stage = .inside lock p →
    p.Obeys (Concerns d.user) (fun _ => True) ∧ (j, (p.run (g j) s.vault).1) ∈ o.results ∧
      cell d.user (p.run (g j) s.vault).2 = cell d.user o.vault
  ended : ∀ (j : Nat) (d : Call) r, s.calls[j]? = some d → d.stage.outcome? = some r →
    (j, r) ∈ o.results
  ahead : ∀ (j : Nat) (d : Call), s.calls[j]? = some d → d.stage.isAhead = true →
    own j s.vault = own j o.vault ∧ j ∉ o.results.map (·.1)
  nodup : (o.results.map (·.1)).Nodup

section invariant

variable {g : Nat → Gateway σ} {cell : String → σ → κ} {own : Nat → σ → ι} {s s' : Locks σ}
  {o : Outcome σ} {i : Nat} {c : Call}

theorem Serial.start (calls : List (Change × String × String)) (vault : σ) :
    Serial g cell own (Locks.start calls vault) ⟨[], vault⟩ := by
  have hstage {j : Nat} {d : Call} (hd : (Locks.start calls vault).calls[j]? = some d) :
      d.stage = .start := by
    obtain ⟨x, -, rfl⟩ := List.mem_map.mp (List.mem_of_getElem? hd)
    rfl
  constructor
  · intro user _
    rfl
  · intro j d lock p hd hp
    rw [hstage hd] at hp
    cases hp
  · intro j d r hd hr
    rw [hstage hd] at hr
    cases hr
  · intro j d hd _
    exact ⟨rfl, List.not_mem_nil⟩
  · exact List.nodup_nil

/-- No one works on a user before a step that changes nobody's hold on the user. -/
theorem held?_of_setStage (hc : s.calls[i]? = some c) {stage : Stage} {user : String}
    (hi : c.user = user → c.stage.held? = none)
    (hfree : ∀ (j : Nat) (d : Call), (s.setStage i stage).calls[j]? = some d → d.user = user →
      d.stage.held? = none) :
    ∀ (j : Nat) (d : Call), s.calls[j]? = some d → d.user = user → d.stage.held? = none := by
  intro j d hd huser
  by_cases hj : j = i
  · subst hj
    rw [hc] at hd
    cases hd
    exact hi huser
  · exact hfree j d (by rw [getElem?_setStage hc, if_neg hj, hd]) huser

/-- A user on whom no one works once a change is inside is not the one of that change, and no one
worked on the user before. -/
theorem free_of_setStage_inside (hc : s.calls[i]? = some c) {lock : Nat}
    {p : Program (Except Fault Unit)} {user : String}
    (hfree : ∀ (j : Nat) (d : Call), (s.setStage i (.inside lock p)).calls[j]? = some d →
      d.user = user → d.stage.held? = none) :
    user ≠ c.user ∧ ∀ (j : Nat) (d : Call), s.calls[j]? = some d → d.user = user →
      d.stage.held? = none := by
  have huser : user ≠ c.user := by
    rintro rfl
    have hi := hfree i { c with stage := .inside lock p }
      (by rw [getElem?_setStage hc, if_pos rfl]) rfl
    cases hi
  exact ⟨huser, held?_of_setStage hc (fun heq => absurd heq.symm huser) hfree⟩

/-- No one works on the user of a change that waits for a lock that is free. -/
theorem free_of_waiting (hdis : Disciplined s) (hc : s.calls[i]? = some c) {lock : Nat}
    (hstage : c.stage = .waiting lock) (hlock : s.isHeld lock = false) :
    ∀ (j : Nat) (d : Call), s.calls[j]? = some d → d.user = c.user → d.stage.held? = none := by
  intro j d hd huser
  cases hheld : d.stage.held? with
  | none => rfl
  | some lock' =>
    have hother := hdis.tracked j d lock' hd (handle?_of_held? hheld)
    have hown := hdis.tracked i c lock hc (by rw [hstage]; rfl)
    rw [huser, hown] at hother
    cases hother
    exact absurd hheld (not_held_of_isHeld hlock hd)

theorem turn_of_getElem? (hc : s.calls[i]? = some c) :
    turn g s.parties o i =
      ⟨o.results ++ [(i, ((underLock c.change c.user c.policy).run.run (g i) o.vault).1)],
        ((underLock c.change c.user c.policy).run.run (g i) o.vault).2⟩ := by
  simp [turn, parties, hc, Action.on]

/-- A change that is not inside, before and after. -/
theorem Serial.stay (h : Serial g cell own s o) (hc : s.calls[i]? = some c) {stage : Stage}
    (hold : c.stage.held? = none) (hnew : stage.held? = none)
    (hended : ∀ r, stage.outcome? = some r → c.stage.outcome? = some r)
    (hahead : stage.isAhead = true → c.stage.isAhead = true) :
    Serial g cell own (s.setStage i stage) o := by
  constructor
  · intro user hfree
    exact h.free user (held?_of_setStage hc (fun _ => hold) hfree)
  · intro j d lock p hd hp
    obtain ⟨rfl, rfl⟩ | ⟨-, hd⟩ := of_getElem?_setStage hc hd
    · dsimp only at hp
      rw [hp] at hnew
      cases hnew
    · exact h.inside j d lock p hd hp
  · intro j d r hd hr
    obtain ⟨rfl, rfl⟩ | ⟨-, hd⟩ := of_getElem?_setStage hc hd
    · exact h.ended j c r hc (hended r hr)
    · exact h.ended j d r hd hr
  · intro j d hd hj
    obtain ⟨rfl, rfl⟩ | ⟨-, hd⟩ := of_getElem?_setStage hc hd
    · exact h.ahead j c hc (hahead hj)
    · exact h.ahead j d hd hj
  · exact h.nodup

/-- A change that is done with its requests gives the lock back. -/
theorem Serial.release (h : Serial g cell own s o) (hc : s.calls[i]? = some c) {lock : Nat}
    {result : Except Fault Unit} (hstage : c.stage = .inside lock (.done result)) :
    Serial g cell own (s.setStage i (.released lock result)) o := by
  obtain ⟨-, hresult, hcell⟩ := h.inside i c lock _ hc hstage
  constructor
  · intro user hfree
    by_cases huser : c.user = user
    · subst huser
      exact hcell
    · exact h.free user (held?_of_setStage hc (fun heq => absurd heq huser) hfree)
  · intro j d lock' p hd hp
    obtain ⟨rfl, rfl⟩ | ⟨-, hd⟩ := of_getElem?_setStage hc hd
    · cases hp
    · exact h.inside j d lock' p hd hp
  · intro j d r hd hr
    obtain ⟨rfl, rfl⟩ | ⟨-, hd⟩ := of_getElem?_setStage hc hd
    · cases hr
      exact hresult
    · exact h.ended j d r hd hr
  · intro j d hd hj
    obtain ⟨rfl, rfl⟩ | ⟨-, hd⟩ := of_getElem?_setStage hc hd
    · cases hj
    · exact h.ahead j d hd hj
  · exact h.nodup

/-- A change that is inside takes one step of its program. -/
theorem Serial.goOn (h : Serial g cell own s o) (hsep : Separates g cell own)
    (hdis : Disciplined s) (hc : s.calls[i]? = some c) {lock : Nat}
    {p p' : Program (Except Fault Unit)} {vault : σ} (hstage : c.stage = .inside lock p)
    (hrun : p'.run (g i) vault = p.run (g i) s.vault)
    (hobeys : p'.Obeys (Concerns c.user) fun _ => True)
    (hcell : ∀ other, other ≠ c.user → cell other vault = cell other s.vault)
    (hown : ∀ j, j ≠ i → own j vault = own j s.vault) :
    Serial g cell own ({ s with vault := vault }.setStage i (.inside lock p')) o := by
  obtain ⟨-, hresult, hleft⟩ := h.inside i c lock p hc hstage
  have hheld : c.stage.held? = some lock := by rw [hstage]; rfl
  have hc' : ({ s with vault := vault } : Locks σ).calls[i]? = some c := hc
  constructor
  · intro user hfree
    obtain ⟨huser, hbefore⟩ := free_of_setStage_inside hc' hfree
    exact (hcell user huser).trans (h.free user hbefore)
  · intro j d lock' q hd hq
    obtain ⟨rfl, rfl⟩ | ⟨hj, hd⟩ := of_getElem?_setStage hc' hd
    · cases hq
      refine ⟨hobeys, ?_, ?_⟩
      · exact hrun ▸ hresult
      · exact hrun ▸ hleft
    · obtain ⟨hq', hresult', hleft'⟩ := h.inside j d lock' q hd hq
      have huser : d.user ≠ c.user := fun heq =>
        hj (hdis.alone hc hd heq hheld (by rw [hq]; rfl))
      obtain ⟨hsame, hsame'⟩ := hsep.run_agree hq' (hcell d.user huser) (hown j hj)
      refine ⟨hq', ?_, ?_⟩
      · exact hsame ▸ hresult'
      · exact hsame'.trans hleft'
  · intro j d r hd hr
    obtain ⟨rfl, rfl⟩ | ⟨-, hd⟩ := of_getElem?_setStage hc' hd
    · cases hr
    · exact h.ended j d r hd hr
  · intro j d hd hahead
    obtain ⟨rfl, rfl⟩ | ⟨hj, hd⟩ := of_getElem?_setStage hc' hd
    · cases hahead
    · obtain ⟨howned, hnew⟩ := h.ahead j d hd hahead
      exact ⟨(hown j hj).trans howned, hnew⟩
  · exact h.nodup

/-- A change acquires its lock: run as a whole after the others, it comes to the same. -/
theorem Serial.acquire (h : Serial g cell own s o) (hsep : Separates g cell own)
    (hdis : Disciplined s) (hc : s.calls[i]? = some c) {lock : Nat}
    (hstage : c.stage = .waiting lock) (hlock : s.isHeld lock = false) :
    Serial g cell own
      (s.setStage i (.inside lock (underLock c.change c.user c.policy).run))
      (turn g s.parties o i) := by
  have hobeys := underLock_obeys c.change c.user c.policy
  have hnobody := free_of_waiting hdis hc hstage hlock
  have hcell := h.free c.user hnobody
  obtain ⟨hown, hnew⟩ := h.ahead i c hc (by rw [hstage]; rfl)
  obtain ⟨hresult, hleft⟩ := hsep.run_agree hobeys hcell hown
  rw [turn_of_getElem? hc]
  constructor
  · intro user hfree
    obtain ⟨huser, hbefore⟩ := free_of_setStage_inside hc hfree
    exact (h.free user hbefore).trans (hsep.run_cell hobeys huser i o.vault).symm
  · intro j d lock' p hd hp
    obtain ⟨rfl, rfl⟩ | ⟨hj, hd⟩ := of_getElem?_setStage hc hd
    · cases hp
      refine ⟨hobeys, List.mem_append_right _ ?_, hleft⟩
      exact List.mem_singleton.mpr (congrArg (Prod.mk j) hresult)
    · obtain ⟨hp', hresult', hleft'⟩ := h.inside j d lock' p hd hp
      have huser : d.user ≠ c.user := by
        intro heq
        have hnone := hnobody j d hd heq
        rw [hp] at hnone
        cases hnone
      refine ⟨hp', List.mem_append_left _ hresult', ?_⟩
      exact hleft'.trans (hsep.run_cell hobeys huser i o.vault).symm
  · intro j d r hd hr
    obtain ⟨rfl, rfl⟩ | ⟨-, hd⟩ := of_getElem?_setStage hc hd
    · cases hr
    · exact List.mem_append_left _ (h.ended j d r hd hr)
  · intro j d hd hahead
    obtain ⟨rfl, rfl⟩ | ⟨hj, hd⟩ := of_getElem?_setStage hc hd
    · cases hahead
    · obtain ⟨howned, hnew'⟩ := h.ahead j d hd hahead
      refine ⟨howned.trans (hsep.run_own hj _ o.vault).symm, ?_⟩
      simpa [hj] using hnew'
  · rw [List.map_append, List.nodup_append]
    refine ⟨h.nodup, by simp, fun a ha b hb => ?_⟩
    rw [List.map_singleton, List.mem_singleton] at hb
    rintro rfl
    rw [hb] at ha
    exact hnew ha

theorem isWaiting_of_waiting {c : Call} {lock : Nat} (hc : s.calls[i]? = some c)
    (hstage : c.stage = .waiting lock) : s.isWaiting i = true := by
  obtain ⟨change, user, policy, stage⟩ := c
  cases hstage
  rw [isWaiting, hc]

theorem isWaiting_of_ne {c : Call} (hc : s.calls[i]? = some c)
    (hstage : ∀ lock, c.stage ≠ .waiting lock) : s.isWaiting i = false := by
  obtain ⟨change, user, policy, stage⟩ := c
  rw [isWaiting, hc]
  cases stage with
  | waiting lock => exact absurd rfl (hstage lock)
  | _ => rfl

/-- Every step keeps the invariant; the change that acquires its lock is run as a whole. -/
theorem Serial.step (h : Serial g cell own s o) (hsep : Separates g cell own)
    (hdis : Disciplined s) (hstep : step (g i) s i = some s') :
    Serial g cell own s' (if s.isWaiting i then turn g s.parties o i else o) := by
  obtain ⟨c, hc, hmove⟩ := move_of_step hstep
  cases hmove with
  | lookUp hstage =>
    have hwaiting := isWaiting_of_ne hc fun lock h => by simp [hstage] at h
    simp only [hwaiting, Bool.false_eq_true, if_false]
    have htable : Serial g cell own
        { s with table := (s.lockOf c.user).1, made := (s.lockOf c.user).2.2 } o :=
      ⟨h.free, h.inside, h.ended, h.ahead, h.nodup⟩
    exact htable.stay hc (by rw [hstage]; rfl) rfl (fun r hr => by cases hr)
      (fun _ => by rw [hstage]; rfl)
  | acquire lock hstage hlock =>
    rw [if_pos (isWaiting_of_waiting hc hstage)]
    exact h.acquire hsep hdis hc hstage hlock
  | ask lock r next hstage =>
    have hwaiting := isWaiting_of_ne hc fun lock h => by simp [hstage] at h
    simp only [hwaiting, Bool.false_eq_true, if_false]
    have hp := (h.inside i c lock _ hc hstage).1
    refine h.goOn hsep hdis hc hstage (run_ask (g i) r next s.vault).symm (hp.2 _) ?_ ?_
    · exact fun other hne => hsep.cell_answer i s.vault hp.1 hne
    · exact fun j hne => hsep.own_answer r s.vault hne
  | note lock line next hstage =>
    have hwaiting := isWaiting_of_ne hc fun lock h => by simp [hstage] at h
    simp only [hwaiting, Bool.false_eq_true, if_false]
    have hp := (h.inside i c lock _ hc hstage).1
    refine h.goOn hsep hdis hc hstage (run_note (g i) line next s.vault).symm hp ?_ ?_
    · exact fun other _ => hsep.cell_log other i line s.vault
    · exact fun j _ => hsep.own_log i j line s.vault
  | release lock result hstage =>
    have hwaiting := isWaiting_of_ne hc fun lock h => by simp [hstage] at h
    simp only [hwaiting, Bool.false_eq_true, if_false]
    exact h.release hc hstage
  | drop lock result hstage =>
    have hwaiting := isWaiting_of_ne hc fun lock h => by simp [hstage] at h
    simp only [hwaiting, Bool.false_eq_true, if_false]
    exact h.stay hc (by rw [hstage]; rfl) rfl (fun r hr => by rw [hstage]; exact hr)
      (fun hahead => by cases hahead)
  | clean result hstage =>
    have hwaiting := isWaiting_of_ne hc fun lock h => by simp [hstage] at h
    simp only [hwaiting, Bool.false_eq_true, if_false]
    have htable : Serial g cell own { s with table := s.cleaned c.user } o :=
      ⟨h.free, h.inside, h.ended, h.ahead, h.nodup⟩
    exact htable.stay hc (by rw [hstage]; rfl) rfl (fun r hr => by rw [hstage]; exact hr)
      (fun hahead => by cases hahead)

/-- Whole runs keep the invariant. -/
theorem Serial.steps (hsep : Separates g cell own) (order : List Nat)
    (h : Serial g cell own s o) (hdis : Disciplined s)
    (hsteps : Locks.steps g s order = some s') :
    Disciplined s' ∧ s'.parties = s.parties ∧
      Serial g cell own s' ((turns g s order).foldl (turn g s.parties) o) := by
  induction order generalizing s o with
  | nil =>
    cases hsteps
    exact ⟨hdis, rfl, h⟩
  | cons i order ih =>
    rw [Locks.steps, List.foldlM_cons] at hsteps
    cases hstep : Locks.step (g i) s i with
    | none =>
      rw [hstep] at hsteps
      cases hsteps
    | some s₁ =>
      rw [hstep] at hsteps
      have hparties := parties_step hstep
      obtain ⟨h1, h2, h3⟩ := ih (h.step hsep hdis hstep) (hdis.step hstep) hsteps
      refine ⟨h1, h2.trans hparties, ?_⟩
      rw [hparties] at h3
      simp only [turns, hstep]
      split
      · rename_i hwaiting
        rwa [if_pos hwaiting] at h3
      · rename_i hwaiting
        rwa [if_neg hwaiting] at h3

/-- What a change came to is recorded. -/
theorem Serial.mem_results (h : Serial g cell own s o) (hc : s.calls[i]? = some c)
    {r : Except Fault Unit} (hr : c.stage.result? = some r) : (i, r) ∈ o.results := by
  refine h.ended i c r hc ?_
  cases hstage : c.stage <;> simp_all [Stage.result?, Stage.outcome?]

/-- When all changes are done each of them is recorded once. -/
theorem Serial.perm_range (h : Serial g cell own s o)
    (hdone : ∀ c ∈ s.calls, c.stage.result?.isSome)
    (hlt : ∀ j ∈ o.results.map (·.1), j < s.calls.length) :
    (o.results.map (·.1)).Perm (List.range s.calls.length) := by
  refine (List.perm_ext_iff_of_nodup h.nodup List.nodup_range).mpr fun j => ⟨fun hj => ?_, ?_⟩
  · exact List.mem_range.mpr (hlt j hj)
  · intro hj
    rw [List.mem_range] at hj
    obtain ⟨r, hr⟩ := Option.isSome_iff_exists.mp (hdone _ (List.getElem_mem hj))
    exact List.mem_map.mpr ⟨(j, r), h.mem_results (List.getElem?_eq_getElem hj) hr, rfl⟩

/-- When all changes are done nothing else is recorded. -/
theorem Serial.lookup_results (h : Serial g cell own s o)
    (hdone : ∀ c ∈ s.calls, c.stage.result?.isSome)
    (hlt : ∀ j ∈ o.results.map (·.1), j < s.calls.length) (i : Nat) :
    s.calls[i]?.bind (·.stage.result?) = o.results.lookup i := by
  cases hc : s.calls[i]? with
  | none =>
    have hnot : i ∉ o.results.map (·.1) := by
      intro hi
      rw [List.getElem?_eq_getElem (hlt i hi)] at hc
      cases hc
    refine (List.lookup_eq_none_iff.mpr fun p hp => ?_).symm
    exact bne_iff_ne.mpr fun heq => hnot (List.mem_map.mpr ⟨p, hp, heq.symm⟩)
  | some c =>
    obtain ⟨r, hr⟩ := Option.isSome_iff_exists.mp (hdone c (List.mem_of_getElem? hc))
    rw [Option.bind_some, hr]
    exact (lookup_eq_some_of_mem h.nodup (h.mem_results hc hr)).symm

end invariant

/-! ## The order of turns -/

theorem lt_of_mem_turns {g : Nat → Gateway σ} {s : Locks σ} {order : List Nat} {i : Nat}
    (h : i ∈ turns g s order) : i < s.parties.length := by
  induction order generalizing s with
  | nil => cases h
  | cons k order ih =>
    simp only [turns] at h
    cases hstep : step (g k) s k with
    | none =>
      rw [hstep] at h
      cases h
    | some s₁ =>
      simp only [hstep] at h
      have hlength : s₁.parties.length = s.parties.length := by rw [parties_step hstep]
      have hk : k < s.parties.length := by
        obtain ⟨c, hc, -⟩ := move_of_step hstep
        have hlt := (List.getElem?_eq_some_iff.mp hc).1
        simpa [parties] using hlt
      split at h
      · rcases List.mem_cons.mp h with rfl | h
        · exact hk
        · exact hlength ▸ ih h
      · exact hlength ▸ ih h

/-- The results of changes that run one at a time stand in the order of the changes. -/
theorem map_results_foldl_turn (g : Nat → Gateway σ) {calls : List (Change × String × String)}
    {order : List Nat} (h : ∀ i ∈ order, i < calls.length) (o : Outcome σ) :
    (order.foldl (turn g calls) o).results.map (·.1) = o.results.map (·.1) ++ order := by
  induction order generalizing o with
  | nil => simp
  | cons i order ih =>
    have hi : i < calls.length := h i List.mem_cons_self
    rw [List.foldl_cons, ih fun j hj => h j (List.mem_cons_of_mem i hj)]
    simp [turn, List.getElem?_eq_getElem hi]

/-! ## A vault at which requests may fail -/

/-- How many requests every change has sent, with one more of change `i`. -/
def countOne (i : Nat) (sent : Nat → Nat) : Nat → Nat :=
  fun j => if j = i then sent j + 1 else sent j

/-- The gateway of change `i` to a vault at which requests may fail: the `n`-th request of the
change does not reach the vault if an answer is planned for it. How many requests every change has
sent is kept beside the state of the vault. -/
def failing (plan : Nat → Nat → Option Answer) (g : Gateway σ) (i : Nat) :
    Gateway (σ × (Nat → Nat)) where
  answer r s :=
    match plan i (s.2 i) with
    | some answer => (answer, (s.1, countOne i s.2))
    | none =>
      let (answer, vault) := g.answer r s.1
      (answer, (vault, countOne i s.2))
  log line s := (g.log line s.1, s.2)

section failing

variable {plan : Nat → Nat → Option Answer} {i j : Nat} {sent sent' : Nat → Nat}

theorem failing_of_some {answer : Answer} (h : plan i (sent i) = some answer) (g : Gateway σ)
    (r : Request) (v : σ) :
    (failing plan g i).answer r (v, sent) = (answer, (v, countOne i sent)) := by
  simp [failing, h]

theorem failing_of_none (h : plan i (sent i) = none) (g : Gateway σ) (r : Request) (v : σ) :
    (failing plan g i).answer r (v, sent) =
      ((g.answer r v).1, ((g.answer r v).2, countOne i sent)) := by
  simp [failing, h]

theorem countOne_self (h : sent i = sent' i) : countOne i sent i = countOne i sent' i := by
  simp [countOne, h]

theorem countOne_of_ne (hne : j ≠ i) (sent : Nat → Nat) : countOne i sent j = sent j :=
  if_neg hne

variable {τ : Type} {user other : String} {r : Request} {h h' : Holdings}

/-- What is answered about a user, and what it makes of the user, depends on the user alone. -/
theorem gateway_agree (rest : Gateway τ) (hr : Concerns user r)
    (hcell : h.user? user = h'.user? user) (t t' : τ) :
    ((Holdings.gateway rest).answer r (h, t)).1 = ((Holdings.gateway rest).answer r (h', t')).1 ∧
      ((Holdings.gateway rest).answer r (h, t)).2.1.user? user =
        ((Holdings.gateway rest).answer r (h', t')).2.1.user? user := by
  obtain ⟨path, hpath, hr⟩ := hr
  rw [Endpoint.user_eq_userPath hpath] at hr
  rcases hr with rfl | ⟨policies, rfl⟩
  · rw [Holdings.gateway_get_user, Holdings.gateway_get_user, hcell]
    exact ⟨rfl, rfl⟩
  · rw [Holdings.gateway_post_user, Holdings.gateway_post_user, hcell]
    cases hu : h'.user? user with
    | none => exact ⟨rfl, hcell⟩
    | some a =>
      refine ⟨rfl, ?_⟩
      dsimp only
      rw [Holdings.user?_replace_self, Holdings.user?_replace_self, hcell]

/-- What is asked about a user leaves the others alone. -/
theorem gateway_frame (rest : Gateway τ) (hr : Concerns user r) (hne : other ≠ user)
    (h : Holdings) (t : τ) :
    ((Holdings.gateway rest).answer r (h, t)).2.1.user? other = h.user? other := by
  obtain ⟨path, hpath, hr⟩ := hr
  rw [Endpoint.user_eq_userPath hpath] at hr
  rcases hr with rfl | ⟨policies, rfl⟩
  · rw [Holdings.gateway_get_user]
  · rw [Holdings.gateway_post_user]
    cases h.user? user with
    | none => rfl
    | some a => exact Holdings.user?_replace_of_ne h hne policies

/-- Changes of users meet in the users' answers alone. -/
theorem separates_failing (plan : Nat → Nat → Option Answer) (rest : Gateway τ) :
    Separates (failing plan (Holdings.gateway rest)) (fun user s => s.1.1.user? user)
      fun i s => s.2 i := by
  constructor
  · rintro user r i ⟨⟨h, t⟩, sent⟩ ⟨⟨h', t'⟩, sent'⟩ hr hcell hown
    dsimp only at hcell hown
    cases hplan : plan i (sent i) with
    | some answer =>
      have hplan' : plan i (sent' i) = some answer := hown ▸ hplan
      rw [failing_of_some hplan, failing_of_some hplan']
      exact ⟨rfl, hcell, countOne_self hown⟩
    | none =>
      have hplan' : plan i (sent' i) = none := hown ▸ hplan
      rw [failing_of_none hplan, failing_of_none hplan']
      obtain ⟨hanswer, hcell'⟩ := gateway_agree rest hr hcell t t'
      exact ⟨hanswer, hcell', countOne_self hown⟩
  · rintro user other r i ⟨⟨h, t⟩, sent⟩ hr hne
    cases hplan : plan i (sent i) with
    | some answer => rw [failing_of_some hplan]
    | none =>
      rw [failing_of_none hplan]
      exact gateway_frame rest hr hne h t
  · rintro i j r ⟨v, sent⟩ hne
    cases hplan : plan i (sent i) with
    | some answer =>
      rw [failing_of_some hplan]
      exact countOne_of_ne hne sent
    | none =>
      rw [failing_of_none hplan]
      exact countOne_of_ne hne sent
  · exact fun _ _ _ _ => rfl
  · exact fun _ _ _ _ => rfl

end failing

/-- No update is lost. When changes of users' policies have run to their ends, with their steps in
any order and any of their requests failing, each came to what it comes to when all run one at a
time in the order in which they acquired their locks, with the same requests failing, and every
user is left as by that run. -/
theorem no_lost_update {τ : Type} (plan : Nat → Nat → Option Answer) (rest : Gateway τ)
    (calls : List (Change × String × String)) (vault : Holdings × τ) (order : List Nat)
    (s : Locks ((Holdings × τ) × (Nat → Nat)))
    (hsteps : Locks.steps (failing plan (Holdings.gateway rest))
      (Locks.start calls (vault, fun _ => 0)) order = some s)
    (hdone : ∀ c ∈ s.calls, c.stage.result?.isSome) :
    let acquired := turns (failing plan (Holdings.gateway rest))
      (Locks.start calls (vault, fun _ => 0)) order
    let serial := inTurn (failing plan (Holdings.gateway rest)) calls acquired
      (vault, fun _ => 0)
    acquired.Perm (List.range calls.length) ∧
      (∀ i, s.calls[i]?.bind (·.stage.result?) = serial.results.lookup i) ∧
      ∀ user, s.vault.1.1.user? user = serial.vault.1.1.user? user := by
  intro acquired serial
  obtain ⟨-, hparties, hserial⟩ := Serial.steps (separates_failing plan rest) order
    (Serial.start calls _) (Disciplined.start calls _) hsteps
  have hcalls : (Locks.start calls (vault, fun _ : Nat => 0)).parties = calls := by
    simp [Locks.start, parties, Function.comp_def]
  rw [hcalls] at hparties hserial
  have hlength : s.calls.length = calls.length := by
    rw [← hparties, parties, List.length_map]
  have hacquired : ∀ i ∈ acquired, i < calls.length := fun i hi => hcalls ▸ lt_of_mem_turns hi
  have hresults : serial.results.map (·.1) = acquired :=
    map_results_foldl_turn (failing plan (Holdings.gateway rest)) hacquired ⟨[], _⟩
  have hlt : ∀ i ∈ serial.results.map (·.1), i < s.calls.length := by
    rw [hresults, hlength]
    exact hacquired
  refine ⟨?_, hserial.lookup_results hdone hlt, fun user => ?_⟩
  · have hperm : (serial.results.map (·.1)).Perm (List.range s.calls.length) :=
      hserial.perm_range hdone hlt
    rwa [hresults, hlength] at hperm
  · refine hserial.free user fun j d hd _ => ?_
    have hresult := hdone d (List.mem_of_getElem? hd)
    cases hstage : d.stage <;> simp_all [Stage.result?, Stage.held?]

/-- Two changes of one user, of which the second acquires the lock first and the first fails when
it replaces the list. The user is left with the other of her two policies, and the first change
comes to the failure. -/
theorem no_lost_update_of_two :
    let plan i n := if i = 0 ∧ n = 1 then some (.error .cancelled) else none
    let calls := [(.grant, "ada", "qa"), (.revoke, "ada", "ops")]
    let vault := (Holdings.small, ())
    let order := [0, 1, 1, 1, 1, 1, 1, 1, 0, 1, 0, 1, 0, 0, 0, 0, 0]
    ∃ s, Locks.steps (failing plan (Holdings.gateway Holdings.obliging))
        (Locks.start calls (vault, fun _ => 0)) order = some s ∧
      (∀ c ∈ s.calls, c.stage.result?.isSome) ∧
      (let acquired := turns (failing plan (Holdings.gateway Holdings.obliging))
        (Locks.start calls (vault, fun _ => 0)) order
      let serial := inTurn (failing plan (Holdings.gateway Holdings.obliging)) calls acquired
        (vault, fun _ => 0)
      acquired.Perm (List.range calls.length) ∧
        (∀ i, s.calls[i]?.bind (·.stage.result?) = serial.results.lookup i) ∧
        (∀ user, s.vault.1.1.user? user = serial.vault.1.1.user? user) ∧
        acquired = [1, 0]) ∧
      s.calls.map (·.stage.result?) = [some (.error .cancelled), some (.ok ())] ∧
      Holdings.small.policiesOf "ada" = ["dev", "ops"] ∧ s.vault.1.1.policiesOf "ada" = ["dev"] ∧
      s.vault.1.1.policiesOf "bob" = Holdings.small.policiesOf "bob" := by
  intro plan calls vault order
  have hrun : (Locks.steps (failing plan (Holdings.gateway Holdings.obliging))
      (Locks.start calls (vault, fun _ => 0)) order).any
      (fun s => decide (s.calls.map (·.stage.result?) = [some (.error .cancelled), some (.ok ())] ∧
        s.vault.1.1.policiesOf "ada" = ["dev"] ∧
        s.vault.1.1.policiesOf "bob" = Holdings.small.policiesOf "bob")) = true := by
    decide +kernel
  obtain ⟨s, hsteps, hend⟩ := (Option.any_eq_true _ _).mp hrun
  obtain ⟨hresults, hada, hbob⟩ := of_decide_eq_true hend
  have hdone : ∀ c ∈ s.calls, c.stage.result?.isSome := by
    intro c hc
    have hresult := List.mem_map_of_mem (f := fun c : Call => c.stage.result?) hc
    rw [hresults] at hresult
    simp only [List.mem_cons, List.not_mem_nil, or_false] at hresult
    rcases hresult with hresult | hresult <;> rw [hresult] <;> rfl
  obtain ⟨hperm, hserial, husers⟩ := no_lost_update plan _ calls vault order s hsteps hdone
  exact ⟨s, hsteps, hdone, ⟨hperm, hserial, husers, by decide +kernel⟩, hresults, by decide, hada,
    hbob⟩

end Locks

end VaultAccess.Membership
