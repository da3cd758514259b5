import VaultAccess.Connector.FullSync
import VaultAccess.Proofs.Connector.Mounting
import VaultAccess.Proofs.Paging.Walk

/-!
# Draining pages

What draining gives once the backends are mounted, for the three shapes of listings: one page, a
page after another, and the windows of a listing, however large they are.
-/
namespace VaultAccess.Connector

open Vault Program Paging Text

/-- What a drain does after a page. -/
def afterPage {α : Type} (page : String → Session (Page α)) (fuel : Nat) (cursor : String)
    (p : Page α) : Session (List α) := do
  if p.nextCursor = "" then return p.items
  if p.nextCursor = cursor then throw stalled
  let rest ← drainFrom page fuel p.nextCursor
  return p.items ++ rest

theorem drainFrom_succ {α : Type} (page : String → Session (Page α)) (fuel : Nat)
    (cursor : String) :
    drainFrom page (fuel + 1) cursor = page cursor >>= afterPage page fuel cursor := rfl

namespace Session

variable {α β σ : Type} {g : Gateway σ} {s : σ}

/-- That a session whose backends are mounted gives a value and leaves everything as it is. -/
def Gives (g : Gateway σ) (s : σ) (x : Session α) (a : α) : Prop :=
  ∀ outcomes, Program.run g (x.run ⟨some outcomes⟩) s = ((.ok a, ⟨some outcomes⟩), s)

theorem Gives.pure (a : α) : Gives g s (pure a) a := fun _ => rfl

theorem Gives.bind {x : Session α} {f : α → Session β} {a : α} {b : β} (hx : Gives g s x a)
    (hf : Gives g s (f a) b) : Gives g s (x >>= f) b := by
  intro outcomes
  rw [run_bind, Program.run_bind, hx outcomes]
  exact hf outcomes

theorem Gives.ofTask {t : Action α} {a : α} (h : t.on g s = (.ok a, s)) :
    Gives g s (ofTask t) a := by
  intro outcomes
  rw [Action.on] at h
  rw [run_ofTask, Program.run_bind, h]
  rfl

/-- With the backends mounted a task is run at once. -/
theorem Gives.mounted (c : Connector) {t : Action α} {a : α} (h : t.on g s = (.ok a, s)) :
    Gives g s (c.mounted t) a := by
  intro outcomes
  rw [Connector.mounted, run_bootstrap_bind_mounted]
  exact Gives.ofTask h outcomes

/-- Where the backends can be enabled a session gives what it does once they are mounted. -/
theorem Gives.bootstrap_bind {τ : Type} {rest : Gateway τ} {backends : List Backend}
    (henable : Backend.CanEnable rest backends) {f : List Backend.Outcome → Session α} {a : α}
    {h : Holdings} (hf : ∀ outcomes t', Gives (Holdings.gateway rest) (h, t') (f outcomes) a)
    (memory : Memory) (t : τ) :
    ∃ outcomes t', Program.run (Holdings.gateway rest)
      ((Session.bootstrap backends >>= f).run memory) (h, t) =
        ((.ok a, ⟨some outcomes⟩), (h, t')) := by
  obtain ⟨outcomes, t', -, -, hrun, -⟩ := run_bootstrap_bind henable f memory h t
  exact ⟨outcomes, t', hrun.trans (hf outcomes t' outcomes)⟩

variable {page : String → Session (Page α)} {fuel : Nat} {cursor : String}

/-- Nothing comes after a last page. -/
theorem Gives.drainFrom_last {items : List α} (hpage : Gives g s (page cursor) ⟨items, ""⟩) :
    Gives g s (drainFrom page (fuel + 1) cursor) items := by
  refine hpage.bind ?_
  rw [if_pos rfl]
  exact Gives.pure items

/-- After a page that moves the cursor come the items from there on. -/
theorem Gives.drainFrom_more {items rest : List α} {next : String} (hne : next ≠ "")
    (hmoves : next ≠ cursor) (hpage : Gives g s (page cursor) ⟨items, next⟩)
    (hrest : Gives g s (drainFrom page fuel next) rest) :
    Gives g s (drainFrom page (fuel + 1) cursor) (items ++ rest) := by
  refine hpage.bind ?_
  rw [if_neg hne, if_neg hmoves]
  exact hrest.bind (Gives.pure _)

/-- A listing in one page. -/
theorem Gives.drain_single {items : List α} (hpage : Gives g s (page "") (.single items)) :
    Gives g s (drain page) items := hpage.drainFrom_last

/-- A listing in two pages. -/
theorem Gives.drain_pair {items rest : List α} {next : String} (hne : next ≠ "")
    (hfirst : Gives g s (page "") ⟨items, next⟩) (hsecond : Gives g s (page next) ⟨rest, ""⟩) :
    Gives g s (drain page) (items ++ rest) :=
  hfirst.drainFrom_more hne hne hsecond.drainFrom_last

section windows

variable {ρ : Type} (kind : Kind) (all : List ρ) (size : Nat) (f : List ρ → List α)

/-- The windows from an offset on are drained to what is left of the listing. Each window moves the
offset, so there are no more of them than items left. -/
theorem Gives.drainFrom_windows (happend : ∀ xs ys, f (xs ++ ys) = f xs ++ f ys)
    (hlimit : all.length ≤ Decimal.wordLimit)
    (hpage : ∀ offset batch, window all (offsetMarker offset) size = .ok batch →
      Gives g s (page (bookmark kind (offsetMarker offset)))
        ⟨f batch.records, bookmark kind batch.next⟩)
    {offset : Nat} (hoffset : offset < Decimal.wordLimit) (hfuel : all.length < offset + fuel) :
    Gives g s (drainFrom page (fuel + 1) (bookmark kind (offsetMarker offset)))
      (f (all.drop offset)) := by
  induction fuel generalizing offset with
  | zero =>
    have hlast := window_last all size hoffset (by omega)
    exact (hpage offset _ hlast).drainFrom_last
  | succ fuel ih =>
    by_cases hmore : offset + max size 1 < all.length
    · have hstop : offset + max size 1 < Decimal.wordLimit := by omega
      have hmoves : offsetMarker (offset + max size 1) ≠ offsetMarker offset := fun h => by
        have := offsetMarker_injective h
        omega
      have hne : bookmark kind (offsetMarker (offset + max size 1)) ≠ "" :=
        bookmark_offsetMarker_ne kind (by omega)
      have hwindow := hpage offset _ (window_more all size hoffset hmore)
      have hrest := ih hstop (by omega)
      rw [drop_eq_append all (max size 1) offset, happend]
      exact hwindow.drainFrom_more hne (fun h => hmoves (bookmark_injective kind h)) hrest
    · have hlast := window_last all size hoffset (by omega)
      exact (hpage offset _ hlast).drainFrom_last

/-- The windows of a listing are drained to the whole of it, whatever their size. -/
theorem Gives.drain_windows (happend : ∀ xs ys, f (xs ++ ys) = f xs ++ f ys)
    (hlimit : all.length ≤ Decimal.wordLimit)
    (hpage : ∀ offset batch, window all (offsetMarker offset) size = .ok batch →
      Gives g s (page (bookmark kind (offsetMarker offset)))
        ⟨f batch.records, bookmark kind batch.next⟩) :
    Gives g s (drain page) (f all) := by
  have h : Gives g s (drainFrom page (Decimal.wordLimit + 1 + 1) (bookmark kind (offsetMarker 0)))
      (f (all.drop 0)) :=
    Gives.drainFrom_windows kind all size f happend hlimit hpage (by decide) (by omega)
  exact h

end windows

end Session

end VaultAccess.Connector
