import VaultAccess.Proofs.Connector.Exclusion
import VaultAccess.Proofs.Vault.Server

/-!
# What the lock table holds

The table has the lock of every change with a handle, no two users have one lock, and no lock
outlives the changes it is for: whoever cleans the table last takes the user's lock out, also one
that was made anew in the meantime. So the table is empty whenever no change is under way.
-/
namespace VaultAccess.Membership

open Vault

namespace Stage

/-- Whether a change is between looking up its lock and the end of its clean-up. -/
def isUnderWay : Stage → Bool
  | waiting _ | inside _ _ | released _ _ | dropped _ => true
  | start | done _ => false

theorem isUnderWay_of_handle? {stage : Stage} {lock : Nat} (h : stage.handle? = some lock) :
    stage.isUnderWay = true := by
  cases stage <;> simp_all [handle?, isUnderWay]

end Stage

namespace Locks

variable {σ : Type} {s s' : Locks σ} {i : Nat} {c : Call} {user other : String} {lock : Nat}

/-! ## Looking up and cleaning -/

theorem made_le_lockOf (s : Locks σ) (user : String) : s.made ≤ (s.lockOf user).2.2 := by
  unfold Locks.lockOf
  split
  · exact Nat.le_refl _
  · exact Nat.le_succ _

/-- A lock in the table after a look-up was there, or has just been made for the user. -/
theorem lookup_of_lockOf (h : (s.lockOf user).1.lookup other = some lock) :
    s.table.lookup other = some lock ∨
      other = user ∧ lock = s.made ∧ (s.lockOf user).2.2 = s.made + 1 := by
  unfold Locks.lockOf at h ⊢
  split at h
  · exact .inl h
  · by_cases hother : other = user
    · subst hother
      rw [List.lookup_cons_self] at h
      exact .inr ⟨rfl, (Option.some.inj h).symm, rfl⟩
    · rw [lookup_cons_of_ne hother] at h
      exact .inl h

/-- A lock in the table after a clean-up was there, and if it is the user's, some change has a
handle on it. -/
theorem lookup_of_cleaned (h : (s.cleaned user).lookup other = some lock) :
    s.table.lookup other = some lock ∧ (other = user → s.handles lock ≠ 0) := by
  unfold Locks.cleaned at h
  split at h
  · by_cases hother : other = user
    · subst hother
      rw [lookup_filter_self] at h
      cases h
    · rw [lookup_filter_of_ne hother] at h
      exact ⟨h, fun heq => absurd heq hother⟩
  next hused =>
    refine ⟨h, ?_⟩
    rintro rfl
    simpa [h] using hused

/-- A lock on which there are handles has a change with one. -/
theorem exists_of_handles (h : s.handles lock ≠ 0) :
    ∃ (j : Nat) (d : Call), s.calls[j]? = some d ∧ d.stage.handle? = some lock := by
  obtain ⟨d, hd, hhandle⟩ := List.countP_pos_iff.mp (Nat.pos_of_ne_zero h)
  obtain ⟨j, hj⟩ := List.getElem?_of_mem hd
  exact ⟨j, d, hj, beq_iff_eq.mp hhandle⟩

/-- A table that has no lock for anyone is empty. -/
theorem eq_nil_of_lookup {table : List (String × Nat)}
    (h : ∀ user lock, table.lookup user ≠ some lock) : table = [] := by
  cases table with
  | nil => rfl
  | cons entry rest => exact absurd List.lookup_cons_self (h entry.1 entry.2)

/-! ## The invariant -/

/-- Whether some change of a user is under way. -/
def IsServing (s : Locks σ) (user : String) : Prop :=
  ∃ (j : Nat) (d : Call), s.calls[j]? = some d ∧ d.user = user ∧ d.stage.isUnderWay = true

/-- A user is still served after another step, if the change that took it is under way or is not one
of the user. -/
theorem IsServing.setStage (h : s.IsServing user) (hc : s.calls[i]? = some c) {stage : Stage}
    (hi : c.user = user → stage.isUnderWay = true) : (s.setStage i stage).IsServing user := by
  obtain ⟨j, d, hd, huser, hunder⟩ := h
  by_cases hj : j = i
  · subst hj
    rw [hc] at hd
    cases hd
    exact ⟨j, { c with stage }, by rw [getElem?_setStage hc, if_pos rfl], huser, hi huser⟩
  · exact ⟨j, d, by rw [getElem?_setStage hc, if_neg hj, hd], huser, hunder⟩

/-- The locks in the table have been made, each for one user, and their users are served. -/
structure Kept (s : Locks σ) : Prop where
  made : ∀ user lock, s.table.lookup user = some lock → lock < s.made
  own : ∀ user other lock, s.table.lookup user = some lock → s.table.lookup other = some lock →
    user = other
  served : ∀ user lock, s.table.lookup user = some lock → s.IsServing user

theorem Kept.start (calls : List (Change × String × String)) (vault : σ) :
    Kept (Locks.start calls vault) := by
  constructor
  · intro user lock h
    cases h
  · intro user other lock h
    cases h
  · intro user lock h
    cases h

/-- A change may go on to a stage under way, whatever is asked. -/
theorem Kept.goOn (h : Kept s) (hc : s.calls[i]? = some c) {stage : Stage}
    (hunder : stage.isUnderWay = true) (vault : σ) :
    Kept ({ s with vault := vault }.setStage i stage) := by
  have hc' : ({ s with vault := vault } : Locks σ).calls[i]? = some c := hc
  refine ⟨h.made, h.own, fun user lock hlock => ?_⟩
  have hserved : ({ s with vault := vault } : Locks σ).IsServing user := h.served user lock hlock
  exact hserved.setStage hc' fun _ => hunder

/-- A change may look up its lock. -/
theorem Kept.lookUp (h : Kept s) (hc : s.calls[i]? = some c) {stage : Stage}
    (hunder : stage.isUnderWay = true) :
    Kept ({ s with table := (s.lockOf c.user).1, made := (s.lockOf c.user).2.2 }.setStage i
      stage) := by
  let looked : Locks σ := { s with table := (s.lockOf c.user).1, made := (s.lockOf c.user).2.2 }
  have hc' : looked.calls[i]? = some c := hc
  constructor
  · intro user lock hlock
    change lock < (s.lockOf c.user).2.2
    obtain hold | ⟨-, rfl, hmade⟩ := lookup_of_lockOf hlock
    · exact Nat.lt_of_lt_of_le (h.made user lock hold) (made_le_lockOf s c.user)
    · omega
  · intro user other lock huser hother
    -- A lock that has just been made is none of those that were there.
    obtain hold | ⟨rfl, hnew, -⟩ := lookup_of_lockOf huser <;>
      obtain hold' | ⟨rfl, hnew', -⟩ := lookup_of_lockOf hother
    · exact h.own user other lock hold hold'
    · exact absurd (h.made user lock hold) (by omega)
    · exact absurd (h.made other lock hold') (by omega)
    · rfl
  · intro user lock hlock
    obtain hold | ⟨rfl, -, -⟩ := lookup_of_lockOf hlock
    · have hserved : looked.IsServing user := h.served user lock hold
      exact hserved.setStage hc' fun _ => hunder
    · exact ⟨i, { c with stage }, by rw [getElem?_setStage hc', if_pos rfl], rfl, hunder⟩

/-- A change may clean the table. If the lock of its user stays, some change has a handle on it;
that one has its lock in the table too, and so is a change of the same user. -/
theorem Kept.clean (h : Kept s) (hdis : Disciplined s) (hc : s.calls[i]? = some c)
    {result : Except Fault Unit} (hstage : c.stage = .dropped result) :
    Kept ({ s with table := s.cleaned c.user }.setStage i (.done result)) := by
  let cleaned : Locks σ := { s with table := s.cleaned c.user }
  have hc' : cleaned.calls[i]? = some c := hc
  constructor
  · intro user lock hlock
    exact h.made user lock (lookup_of_cleaned hlock).1
  · intro user other lock huser hother
    exact h.own user other lock (lookup_of_cleaned huser).1 (lookup_of_cleaned hother).1
  · intro user lock hlock
    obtain ⟨hold, hhandles⟩ := lookup_of_cleaned hlock
    by_cases huser : user = c.user
    · obtain ⟨j, d, hd, hhandle⟩ := exists_of_handles (hhandles huser)
      have hj : j ≠ i := by
        rintro rfl
        rw [hc] at hd
        cases hd
        rw [hstage] at hhandle
        cases hhandle
      refine ⟨j, d, ?_, ?_, Stage.isUnderWay_of_handle? hhandle⟩
      · rw [getElem?_setStage hc', if_neg hj]
        exact hd
      · exact h.own d.user user lock (hdis.tracked j d lock hd hhandle) hold
    · have hserved : cleaned.IsServing user := h.served user lock hold
      exact hserved.setStage hc' fun heq => absurd heq.symm huser

/-- Every step keeps the table. -/
theorem Kept.step {g : Program.Gateway σ} (h : Kept s) (hdis : Disciplined s)
    (hstep : Locks.step g s i = some s') : Kept s' := by
  obtain ⟨c, hc, hmove⟩ := move_of_step hstep
  cases hmove with
  | lookUp hstage => exact h.lookUp hc rfl
  | acquire lock hstage hfree => exact h.goOn hc rfl s.vault
  | ask lock r next hstage => exact h.goOn hc rfl _
  | note lock line next hstage => exact h.goOn hc rfl _
  | release lock result hstage => exact h.goOn hc rfl s.vault
  | drop lock result hstage => exact h.goOn hc rfl s.vault
  | clean result hstage => exact h.clean hdis hc hstage

/-- Whole runs keep the discipline and the table. -/
theorem Kept.steps {g : Nat → Program.Gateway σ} (order : List Nat) (h : Kept s)
    (hdis : Disciplined s) (hsteps : Locks.steps g s order = some s') :
    Disciplined s' ∧ Kept s' := by
  induction order generalizing s with
  | nil =>
    cases hsteps
    exact ⟨hdis, h⟩
  | cons i order ih =>
    rw [Locks.steps, List.foldlM_cons] at hsteps
    obtain ⟨s₁, hstep, hrest⟩ := Option.bind_eq_some_iff.mp hsteps
    exact ih (h.step hdis hstep) (hdis.step hstep) hrest

/-- The lock table stays exact. Whatever is answered and however the steps of changes interleave,
a change that waits for a lock, holds it or still has its handle has the lock of its user in the
table. Changes with handles have one lock if they are of one user, and different locks otherwise. A
lock in the table is that of a user with a change under way, so while no change is between its
look-up and the end of its clean-up, the table is empty. A change that is refused for its kinds
looks up no lock, so these are all that share the table. -/
theorem lock_table_exact (g : Nat → Program.Gateway σ) (calls : List (Change × String × String))
    (vault : σ) (order : List Nat) (s : Locks σ)
    (hsteps : Locks.steps g (Locks.start calls vault) order = some s) :
    (∀ c ∈ s.calls, ∀ lock, c.stage.handle? = some lock → s.table.lookup c.user = some lock) ∧
      (∀ c ∈ s.calls, ∀ d ∈ s.calls, ∀ lock lock', c.stage.handle? = some lock →
        d.stage.handle? = some lock' → (lock = lock' ↔ c.user = d.user)) ∧
      (∀ user lock, s.table.lookup user = some lock →
        ∃ c ∈ s.calls, c.user = user ∧ c.stage.isUnderWay = true) ∧
      ((∀ c ∈ s.calls, c.stage.isUnderWay = false) → s.table = []) := by
  obtain ⟨hdis, hkept⟩ :=
    (Kept.start calls vault).steps order (Disciplined.start calls vault) hsteps
  have htracked : ∀ c ∈ s.calls, ∀ lock, c.stage.handle? = some lock →
      s.table.lookup c.user = some lock := by
    intro c hc lock hhandle
    obtain ⟨i, hi⟩ := List.getElem?_of_mem hc
    exact hdis.tracked i c lock hi hhandle
  have hserved : ∀ user lock, s.table.lookup user = some lock →
      ∃ c ∈ s.calls, c.user = user ∧ c.stage.isUnderWay = true := by
    intro user lock hlock
    obtain ⟨j, d, hd, huser, hunder⟩ := hkept.served user lock hlock
    exact ⟨d, List.mem_of_getElem? hd, huser, hunder⟩
  refine ⟨htracked, ?_, hserved, fun hidle => eq_nil_of_lookup fun user lock hlock => ?_⟩
  · intro c hc d hd lock lock' hhandle hhandle'
    have hown := htracked c hc lock hhandle
    have hown' := htracked d hd lock' hhandle'
    constructor
    · rintro rfl
      exact hkept.own c.user d.user lock hown hown'
    · intro huser
      rw [huser, hown'] at hown
      exact (Option.some.inj hown).symm
  · obtain ⟨c, hc, -, hunder⟩ := hserved user lock hlock
    rw [hidle c hc] at hunder
    cases hunder

/-- Three changes of one user, of which the second cleans the table after the third had the lock
made anew, beside a change of another user that fails. -/
theorem lock_table_exact_of_remade :
    let g := fun _ : Nat => Holdings.gateway Holdings.obliging
    let calls := [(.grant, "ada", "qa"), (.revoke, "ada", "ops"), (.grant, "ada", "dev"),
      (.revoke, "bob", "qa")]
    let order := [1, 0, 0, 0, 0, 0, 0, 0, 0, 3, 3, 1, 1, 1, 1, 1, 1, 1, 0, 2, 1]
    let rest := [2, 2, 2, 2, 2, 2, 2, 2, 3, 3, 3, 3, 3, 3]
    (∃ s, Locks.steps g (Locks.start calls (Holdings.small, ())) order = some s ∧
      s.table = [("ada", 2), ("bob", 1)] ∧
      (∀ c ∈ s.calls, ∀ lock, c.stage.handle? = some lock →
        s.table.lookup c.user = some lock) ∧
      ∀ c ∈ s.calls, ∀ d ∈ s.calls, ∀ lock lock', c.stage.handle? = some lock →
        d.stage.handle? = some lock' → (lock = lock' ↔ c.user = d.user)) ∧
    ∃ s, Locks.steps g (Locks.start calls (Holdings.small, ())) (order ++ rest) = some s ∧
      (∀ c ∈ s.calls, c.stage.isUnderWay = false) ∧ s.table = [] := by
  intro g calls order rest
  have hmidway : (Locks.steps g (Locks.start calls (Holdings.small, ())) order).any
      (fun s => s.table == [("ada", 2), ("bob", 1)]) = true := by decide +kernel
  have hidle : (Locks.steps g (Locks.start calls (Holdings.small, ())) (order ++ rest)).any
      (fun s => s.calls.all fun c => !c.stage.isUnderWay) = true := by decide +kernel
  constructor
  · obtain ⟨s, hsteps, htable⟩ := (Option.any_eq_true _ _).mp hmidway
    obtain ⟨htracked, hshared, -⟩ := lock_table_exact g calls _ order s hsteps
    exact ⟨s, hsteps, beq_iff_eq.mp htable, htracked, hshared⟩
  · obtain ⟨s, hsteps, hall⟩ := (Option.any_eq_true _ _).mp hidle
    have hnone : ∀ c ∈ s.calls, c.stage.isUnderWay = false := fun c hc =>
      Bool.not_eq_true' _ ▸ List.all_eq_true.mp hall c hc
    obtain ⟨-, -, -, hempty⟩ := lock_table_exact g calls _ (order ++ rest) s hsteps
    exact ⟨s, hsteps, hnone, hempty hnone⟩

end Locks

end VaultAccess.Membership
