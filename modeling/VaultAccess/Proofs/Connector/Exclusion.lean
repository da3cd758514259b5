import VaultAccess.Connector.Locks
import VaultAccess.Proofs.Lookup

/-!
# Who holds a lock

Every change with a handle finds its lock in the table, and no two changes hold one lock. Each
step keeps both, so changes of one user exclude each other although locks come and go; and some
change can always go on until all are done.
-/
namespace VaultAccess.Membership.Locks

open Vault

variable {σ : Type} {g : Program.Gateway σ} {s s' : Locks σ} {i j : Nat} {c d : Call}

/-- The steps that a change can take, by what it does. -/
inductive Move (g : Program.Gateway σ) (s : Locks σ) (i : Nat) (c : Call) : Locks σ → Prop
  | lookUp (hstage : c.stage = .start) :
    Move g s i c ({ s with table := (s.lockOf c.user).1, made := (s.lockOf c.user).2.2 }.setStage i
      (.waiting (s.lockOf c.user).2.1))
  | acquire (lock : Nat) (hstage : c.stage = .waiting lock) (hfree : s.isHeld lock = false) :
    Move g s i c (s.setStage i (.inside lock (underLock c.change c.user c.policy).run))
  | ask (lock : Nat) (r : Request) (next : Answer → Program (Except Fault Unit))
    (hstage : c.stage = .inside lock (.ask r next)) :
    Move g s i c ({ s with vault := (g.answer r s.vault).2 }.setStage i
      (.inside lock (next (g.answer r s.vault).1)))
  | note (lock : Nat) (line : LogLine) (next : Program (Except Fault Unit))
    (hstage : c.stage = .inside lock (.note line next)) :
    Move g s i c ({ s with vault := g.log line s.vault }.setStage i (.inside lock next))
  | release (lock : Nat) (result : Except Fault Unit)
    (hstage : c.stage = .inside lock (.done result)) :
    Move g s i c (s.setStage i (.released lock result))
  | drop (lock : Nat) (result : Except Fault Unit) (hstage : c.stage = .released lock result) :
    Move g s i c (s.setStage i (.dropped result))
  | clean (result : Except Fault Unit) (hstage : c.stage = .dropped result) :
    Move g s i c ({ s with table := s.cleaned c.user }.setStage i (.done result))

/-- Every step is a move of the change it names. -/
theorem move_of_step (h : step g s i = some s') : ∃ c, s.calls[i]? = some c ∧ Move g s i c s' := by
  unfold step at h
  split at h
  · cases h
  · rename_i c hc
    refine ⟨c, hc, ?_⟩
    split at h
    · cases h
      exact .lookUp ‹_›
    · split at h
      · cases h
      · cases h
        exact .acquire _ ‹_› (Bool.not_eq_true _ ▸ ‹_›)
    · cases h
      exact .release _ _ ‹_›
    · cases h
      exact .ask _ _ _ ‹_›
    · cases h
      exact .note _ _ _ ‹_›
    · cases h
      exact .drop _ _ ‹_›
    · cases h
      exact .clean _ ‹_›
    · cases h

theorem getElem?_setStage (hc : s.calls[i]? = some c) (stage : Stage) (j : Nat) :
    (s.setStage i stage).calls[j]? = if j = i then some { c with stage } else s.calls[j]? := by
  rw [setStage, List.getElem?_modify]
  by_cases h : j = i
  · subst h
    simp [hc]
  · simp [h, Ne.symm h]

/-- A change after one of them went to another stage. -/
theorem of_getElem?_setStage (hc : s.calls[i]? = some c) {stage : Stage}
    (hd : (s.setStage i stage).calls[j]? = some d) :
    j = i ∧ d = { c with stage } ∨ j ≠ i ∧ s.calls[j]? = some d := by
  rw [getElem?_setStage hc] at hd
  split at hd
  · exact .inl ⟨‹_›, (Option.some.inj hd).symm⟩
  · exact .inr ⟨‹_›, hd⟩

/-- What the changes of a state are about. -/
def parties (s : Locks σ) : List (Change × String × String) :=
  s.calls.map fun c => (c.change, c.user, c.policy)

@[simp] theorem parties_setStage (s : Locks σ) (i : Nat) (stage : Stage) :
    (s.setStage i stage).parties = s.parties := by
  apply List.ext_getElem?
  intro j
  simp only [parties, setStage, List.getElem?_map, List.getElem?_modify]
  cases s.calls[j]? with
  | none => rfl
  | some c => by_cases h : i = j <;> simp [h]

theorem parties_step (h : step g s i = some s') : s'.parties = s.parties := by
  obtain ⟨c, -, hmove⟩ := move_of_step h
  cases hmove <;> simp only [parties_setStage] <;> rfl

/-- Handles are on the locks of the table, and a lock has one holder at most. -/
structure Disciplined (s : Locks σ) : Prop where
  tracked : ∀ (j : Nat) (d : Call) (lock : Nat),
    s.calls[j]? = some d → d.stage.handle? = some lock →
    s.table.lookup d.user = some lock
  exclusive : ∀ (j k : Nat) (d e : Call) (lock : Nat), s.calls[j]? = some d →
    s.calls[k]? = some e → d.stage.held? = some lock → e.stage.held? = some lock → j = k

theorem handle?_of_held? {stage : Stage} {lock : Nat} (h : stage.held? = some lock) :
    stage.handle? = some lock := by
  cases stage <;> simp_all [Stage.held?, Stage.handle?]

/-- Two changes of one user are never inside together. -/
theorem Disciplined.alone (h : Disciplined s) (hc : s.calls[i]? = some c)
    (hd : s.calls[j]? = some d) (huser : d.user = c.user) {lock lock' : Nat}
    (hheld : c.stage.held? = some lock) (hheld' : d.stage.held? = some lock') : j = i := by
  have h1 := h.tracked i c lock hc (handle?_of_held? hheld)
  have h2 := h.tracked j d lock' hd (handle?_of_held? hheld')
  rw [huser, h1] at h2
  cases h2
  exact h.exclusive j i d c lock hd hc hheld' hheld

theorem not_held_of_isHeld {lock : Nat} (h : s.isHeld lock = false) (hd : s.calls[j]? = some d) :
    d.stage.held? ≠ some lock := by
  intro hheld
  have hany : s.isHeld lock = true :=
    List.any_eq_true.mpr ⟨d, List.mem_of_getElem? hd, by simp [hheld]⟩
  rw [h] at hany
  cases hany

/-- A change may go to a stage whose handle is on its lock and that no one else holds. -/
theorem Disciplined.setStage (h : Disciplined s) (hc : s.calls[i]? = some c) {stage : Stage}
    (htracked : ∀ lock, stage.handle? = some lock → s.table.lookup c.user = some lock)
    (hfree : ∀ lock, stage.held? = some lock →
      ∀ (j : Nat) (d : Call), s.calls[j]? = some d → d.stage.held? = some lock → j = i) :
    Disciplined (s.setStage i stage) := by
  constructor
  · intro j d lock hd hhandle
    obtain ⟨rfl, rfl⟩ | ⟨-, hd⟩ := of_getElem?_setStage hc hd
    · exact htracked lock hhandle
    · exact h.tracked j d lock hd hhandle
  · intro j k d e lock hd he hheld hheld'
    obtain ⟨rfl, rfl⟩ | ⟨-, hold⟩ := of_getElem?_setStage hc hd <;>
      obtain ⟨rfl, rfl⟩ | ⟨-, hold'⟩ := of_getElem?_setStage hc he
    · rfl
    · exact (hfree lock hheld k e hold' hheld').symm
    · exact hfree lock hheld' j d hold hheld
    · exact h.exclusive j k d e lock hold hold' hheld hheld'

/-- A change may go to a stage with no other handle and no other lock, whatever is asked. -/
theorem Disciplined.keep (h : Disciplined s) (hc : s.calls[i]? = some c) {stage : Stage}
    (hhandle : ∀ lock, stage.handle? = some lock → c.stage.handle? = some lock)
    (hheld : ∀ lock, stage.held? = some lock → c.stage.held? = some lock) (vault : σ) :
    Disciplined ({ s with vault := vault }.setStage i stage) := by
  have hvault : Disciplined { s with vault := vault } := ⟨h.tracked, h.exclusive⟩
  refine hvault.setStage hc (fun lock hlock => ?_) (fun lock hlock j d hd hheld' => ?_)
  · exact h.tracked i c lock hc (hhandle lock hlock)
  · exact h.exclusive j i d c lock hd hc hheld' (hheld lock hlock)

/-- A lock may be made for a user who has none. -/
theorem Disciplined.lockOf (h : Disciplined s) (user : String) :
    Disciplined { s with table := (s.lockOf user).1, made := (s.lockOf user).2.2 } := by
  refine ⟨fun j d lock hd hhandle => ?_, h.exclusive⟩
  have hold := h.tracked j d lock hd hhandle
  unfold Locks.lockOf
  split
  · exact hold
  · rename_i hnone
    have hne : d.user ≠ user := by
      rintro rfl
      rw [hold] at hnone
      cases hnone
    exact (lookup_cons_of_ne hne _ _).trans hold

theorem lookup_lockOf (s : Locks σ) (user : String) :
    (s.lockOf user).1.lookup user = some (s.lockOf user).2.1 := by
  unfold Locks.lockOf
  split
  · assumption
  · exact List.lookup_cons_self

/-- A lock without handles may go. -/
theorem Disciplined.cleaned (h : Disciplined s) (user : String) :
    Disciplined { s with table := s.cleaned user } := by
  refine ⟨fun j d lock hd hhandle => ?_, h.exclusive⟩
  have hold := h.tracked j d lock hd hhandle
  unfold Locks.cleaned
  split
  · rename_i hunused
    have hne : d.user ≠ user := by
      rintro rfl
      rw [hold, Option.any_some, beq_iff_eq, handles, List.countP_eq_zero] at hunused
      exact hunused d (List.mem_of_getElem? hd) (by simp [hhandle])
    exact (lookup_filter_of_ne hne _).trans hold
  · exact hold

theorem Disciplined.start (calls : List (Change × String × String)) (vault : σ) :
    Disciplined (Locks.start calls vault) := by
  have hstage {j : Nat} {d : Call} (hd : (Locks.start calls vault).calls[j]? = some d) :
      d.stage = .start := by
    obtain ⟨x, -, rfl⟩ := List.mem_map.mp (List.mem_of_getElem? hd)
    rfl
  constructor
  · intro j d lock hd hhandle
    rw [hstage hd] at hhandle
    cases hhandle
  · intro j k d e lock hd he hheld hheld'
    rw [hstage hd] at hheld
    cases hheld

/-- Every step keeps the discipline. -/
theorem Disciplined.step (h : Disciplined s) (hstep : step g s i = some s') : Disciplined s' := by
  obtain ⟨c, hc, hmove⟩ := move_of_step hstep
  cases hmove with
  | lookUp hstage =>
    refine (h.lockOf c.user).setStage hc (fun lock hlock => ?_) (fun lock hlock => ?_)
    · cases hlock
      exact lookup_lockOf s c.user
    · cases hlock
  | acquire lock hstage hfree =>
    refine h.setStage hc (fun lock' hlock => ?_) (fun lock' hlock j d hd hheld => ?_)
    · cases hlock
      exact h.tracked i c lock hc (by rw [hstage]; rfl)
    · cases hlock
      exact absurd hheld (not_held_of_isHeld hfree hd)
  | ask lock r next hstage =>
    exact h.keep hc (fun _ hlock => by rw [hstage]; exact hlock)
      (fun _ hlock => by rw [hstage]; exact hlock) _
  | note lock line next hstage =>
    exact h.keep hc (fun _ hlock => by rw [hstage]; exact hlock)
      (fun _ hlock => by rw [hstage]; exact hlock) _
  | release lock result hstage =>
    exact h.keep hc (fun _ hlock => by rw [hstage]; exact hlock)
      (fun _ hlock => by cases hlock) s.vault
  | drop lock result hstage =>
    exact h.keep hc (fun _ hlock => by cases hlock) (fun _ hlock => by cases hlock) s.vault
  | clean result hstage =>
    exact (h.cleaned c.user).keep hc (fun _ hlock => by cases hlock)
      (fun _ hlock => by cases hlock) s.vault

/-- While some change is not done, some change can take a step: a change that waits does so for
one that is inside, and that one can go on. -/
theorem exists_step (g : Nat → Program.Gateway σ) (hc : s.calls[i]? = some c)
    (hopen : c.stage.result? = none) : ∃ j, (Locks.step (g j) s j).isSome := by
  cases hstage : c.stage with
  | start => exact ⟨i, by simp [Locks.step, hc, hstage]⟩
  | waiting lock =>
    by_cases hheld : s.isHeld lock
    · obtain ⟨d, hd, hlock⟩ := List.any_eq_true.mp hheld
      obtain ⟨j, hj⟩ := List.getElem?_of_mem hd
      refine ⟨j, ?_⟩
      cases hstage' : d.stage with
      | inside lock' rest => cases rest <;> simp [Locks.step, hj, hstage']
      | _ => simp [hstage', Stage.held?] at hlock
    · exact ⟨i, by simp [Locks.step, hc, hstage, hheld]⟩
  | inside lock rest => exact ⟨i, by cases rest <;> simp [Locks.step, hc, hstage]⟩
  | released lock result => exact ⟨i, by simp [Locks.step, hc, hstage]⟩
  | dropped result => exact ⟨i, by simp [Locks.step, hc, hstage]⟩
  | done result =>
    rw [hstage] at hopen
    cases hopen

end VaultAccess.Membership.Locks
