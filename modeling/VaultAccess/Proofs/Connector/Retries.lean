import VaultAccess.Proofs.Connector.Stillness
import VaultAccess.Proofs.Connector.Strides

/-!
# Failed pages are retried at will

At a vault that holds still, whichever requests fail on the way and however often, repeating each
call that failed with its cursor gives the pages of a walk without failures.
-/
namespace VaultAccess.Connector

open Vault Program Paging Text

variable {α σ : Type}

/-! ## Walks -/

/-- The pages that so many calls hand out, each at the cursor of the page before, up to a call that
fails. -/
def pagesWithin (g : Gateway σ) (page : String → Session (Page α)) :
    Nat → String → Memory → σ → List (Page α)
  | 0, _, _, _ => []
  | n + 1, cursor, memory, s =>
    match Program.run g ((page cursor).run memory) s with
    | ((.error _, _), _) => []
    | ((.ok p, memory'), s') =>
      p :: if p.nextCursor = "" then [] else pagesWithin g page n p.nextCursor memory' s'

/-- The pages that so many calls hand out if a call that fails is repeated with its cursor. -/
def retriedWithin (g : Gateway σ) (page : String → Session (Page α)) :
    Nat → String → Memory → σ → List (Page α)
  | 0, _, _, _ => []
  | n + 1, cursor, memory, s =>
    match Program.run g ((page cursor).run memory) s with
    | ((.error _, memory'), s') => retriedWithin g page n cursor memory' s'
    | ((.ok p, memory'), s') =>
      p :: if p.nextCursor = "" then [] else retriedWithin g page n p.nextCursor memory' s'

/-- That repeating the calls that fail gives no pages but those of the walk without failures, and
all of them in as many more calls as there are failures. -/
structure SamePages (g : Gateway σ) (page : String → Session (Page α)) (memory : Memory) (s : σ)
    (schedule : Schedule) : Prop where
  sound : ∀ n, retriedWithin (disturbed g) page n "" memory (s, schedule) <+:
    pagesWithin g page n "" memory s
  complete : ∃ calls pages, ∀ n, calls ≤ n → pagesWithin g page n "" memory s = pages ∧
    retriedWithin (disturbed g) page (n + schedule.failures) "" memory (s, schedule) = pages

/-- The pages of so many calls, if a cursor always gives the same page or always none. -/
def pagesAlong (gives : String → Option (Page α)) : Nat → String → List (Page α)
  | 0, _ => []
  | n + 1, cursor =>
    match gives cursor with
    | none => []
    | some p => p :: if p.nextCursor = "" then [] else pagesAlong gives n p.nextCursor

variable {gives : String → Option (Page α)}

theorem pagesAlong_of_none {cursor : String} (h : gives cursor = none) (n : Nat) :
    pagesAlong gives n cursor = [] := by
  cases n with
  | zero => rfl
  | succ n => rw [pagesAlong, h]

theorem pagesAlong_of_some {cursor : String} {p : Page α} (h : gives cursor = some p) (n : Nat) :
    pagesAlong gives (n + 1) cursor =
      p :: if p.nextCursor = "" then [] else pagesAlong gives n p.nextCursor := by
  rw [pagesAlong, h]

/-- A page is followed by more where more comes after it. -/
theorem followed_isPrefix (p : Page α) {rest more : List (Page α)} (h : rest <+: more) :
    (p :: if p.nextCursor = "" then [] else rest) <+:
      p :: if p.nextCursor = "" then [] else more := by
  rw [List.prefix_cons_inj]
  by_cases hlast : p.nextCursor = ""
  · rw [if_pos hlast, if_pos hlast]
  · rw [if_neg hlast, if_neg hlast]
    exact h

/-- More calls only add pages. -/
theorem pagesAlong_isPrefix (gives : String → Option (Page α)) (n : Nat) (cursor : String) :
    pagesAlong gives n cursor <+: pagesAlong gives (n + 1) cursor := by
  induction n generalizing cursor with
  | zero => exact List.nil_prefix
  | succ n ih =>
    cases hgives : gives cursor with
    | none => simp [pagesAlong_of_none hgives]
    | some p =>
      rw [pagesAlong_of_some hgives, pagesAlong_of_some hgives]
      exact followed_isPrefix p (ih p.nextCursor)

/-! ## Calls that give what their cursors say -/

/-- That what a call gives is told by its cursor, in every session that is ready and whatever
fails: it gives that with no failure met, or it has met one and fails. -/
structure Settled (g : Gateway σ) (ready : Memory → σ → Prop) (page : String → Session (Page α))
    (gives : String → Option (Page α)) : Prop where
  quiet : ∀ {memory s}, ready memory s → ∀ cursor,
    let out := Program.run g ((page cursor).run memory) s
    ready out.1.2 out.2 ∧ out.1.1.toOption = gives cursor
  disturbed : ∀ {memory s}, ready memory s → ∀ cursor schedule,
    let out := Program.run (disturbed g) ((page cursor).run memory) (s, schedule)
    ready out.1.2 out.2.1 ∧
      (out.1.1.toOption = gives cursor ∧ out.2.2.failures = schedule.failures ∨
        out.1.1.toOption = none ∧ out.2.2.failures < schedule.failures)

namespace Settled

variable {g : Gateway σ} {ready : Memory → σ → Prop} {page : String → Session (Page α)}
  {memory : Memory} {s : σ}

theorem pagesWithin_eq (h : Settled g ready page gives) (hready : ready memory s) (n : Nat)
    (cursor : String) : pagesWithin g page n cursor memory s = pagesAlong gives n cursor := by
  induction n generalizing cursor memory s with
  | zero => rfl
  | succ n ih =>
    obtain ⟨hready', hgives⟩ := h.quiet hready cursor
    rcases hrun : Program.run g ((page cursor).run memory) s with ⟨⟨r, memory'⟩, s'⟩
    rw [hrun] at hready' hgives
    rw [pagesWithin, hrun]
    cases r with
    | error e => exact (pagesAlong_of_none hgives.symm _).symm
    | ok p =>
      have hrest : pagesWithin g page n p.nextCursor memory' s' = _ := ih hready' p.nextCursor
      rw [pagesAlong_of_some hgives.symm, ← hrest]

/-- Repeating the calls that fail gives no other pages. -/
theorem retriedWithin_isPrefix (h : Settled g ready page gives) (hready : ready memory s) (n : Nat)
    (cursor : String) (schedule : Schedule) :
    retriedWithin (Program.disturbed g) page n cursor memory (s, schedule) <+:
      pagesAlong gives n cursor := by
  induction n generalizing cursor memory s schedule with
  | zero => exact List.nil_prefix
  | succ n ih =>
    obtain ⟨hready', houtcome⟩ := h.disturbed hready cursor schedule
    rcases hrun : Program.run (Program.disturbed g) ((page cursor).run memory) (s, schedule) with
      ⟨⟨r, memory'⟩, s', schedule'⟩
    rw [hrun] at hready' houtcome
    rw [retriedWithin, hrun]
    cases r with
    | error e => exact (ih hready' cursor schedule').trans (pagesAlong_isPrefix gives n cursor)
    | ok p =>
      obtain ⟨hgives, -⟩ | ⟨hfails, -⟩ := houtcome
      · rw [pagesAlong_of_some hgives.symm]
        exact followed_isPrefix p (ih hready' p.nextCursor schedule')
      · cases hfails

/-- All the pages come through in as many more calls as there are failures. A call that fails has
used up a failure, so the induction is on the calls. -/
theorem isPrefix_retriedWithin (h : Settled g ready page gives) (hready : ready memory s) {m n : Nat}
    {schedule : Schedule} (hm : n + schedule.failures ≤ m) (cursor : String) :
    pagesAlong gives n cursor <+:
      retriedWithin (Program.disturbed g) page m cursor memory (s, schedule) := by
  induction m generalizing n cursor memory s schedule with
  | zero =>
    obtain rfl : n = 0 := by omega
    exact List.nil_prefix
  | succ m ih =>
    obtain ⟨hready', houtcome⟩ := h.disturbed hready cursor schedule
    rcases hrun : Program.run (Program.disturbed g) ((page cursor).run memory) (s, schedule) with
      ⟨⟨r, memory'⟩, s', schedule'⟩
    rw [hrun] at hready' houtcome
    rw [retriedWithin, hrun]
    cases r with
    | error e =>
      obtain ⟨hgives, -⟩ | ⟨-, hfewer⟩ := houtcome
      · rw [pagesAlong_of_none hgives.symm]
        exact List.nil_prefix
      · have hfewer : schedule'.failures < schedule.failures := hfewer
        exact ih hready' (by omega) cursor
    | ok p =>
      obtain ⟨hgives, hfailures⟩ | ⟨hfails, -⟩ := houtcome
      · have hfailures : schedule'.failures = schedule.failures := hfailures
        cases n with
        | zero => exact List.nil_prefix
        | succ n =>
          rw [pagesAlong_of_some hgives.symm]
          exact followed_isPrefix p (ih hready' (by omega) p.nextCursor)
      · cases hfails

/-- A walk in strides has all its pages after some number of calls. A stride takes the offset on,
and no offset beyond the words is read, so the induction is on the words that are left. -/
theorem exists_calls {kind : Kind} {step : Nat} {reaches : List Exchange → Nat → Prop}
    (h : Settled g ready page gives) (hready : ready memory s)
    (hstrides : Strides kind step reaches page) (hstep : 0 < step) (offset : Nat) :
    ∃ calls pages, ∀ n, calls ≤ n →
      pagesAlong gives n (bookmark kind (offsetMarker offset)) = pages := by
  induction hleft : Decimal.wordLimit - offset using Nat.strong_induction_on
    generalizing offset with
  | _ left ih =>
    obtain ⟨-, hgives⟩ := h.quiet hready (bookmark kind (offsetMarker offset))
    have hplays := plays_trace ((page (bookmark kind (offsetMarker offset))).run memory) g s
    rcases hrun : Program.run g ((page (bookmark kind (offsetMarker offset))).run memory) s with
      ⟨⟨r, memory'⟩, s'⟩
    rw [hrun] at hgives hplays
    cases r with
    | error e => exact ⟨0, [], fun n _ => pagesAlong_of_none hgives.symm n⟩
    | ok p =>
      rcases hstrides offset memory memory' _ p hplays with hlast | ⟨hword, -, hnext⟩
      · refine ⟨1, [p], fun n hn => ?_⟩
        obtain ⟨n, rfl⟩ := Nat.exists_eq_add_of_le' hn
        rw [pagesAlong_of_some hgives.symm, if_pos hlast]
      · obtain ⟨calls, pages, hcalls⟩ :=
          ih (Decimal.wordLimit - (offset + step)) (by omega) (offset + step) rfl
        have hmore : p.nextCursor ≠ "" := by
          rw [hnext]
          exact bookmark_offsetMarker_ne kind (by omega)
        refine ⟨calls + 1, p :: pages, fun n hn => ?_⟩
        cases n with
        | zero => omega
        | succ n =>
          rw [pagesAlong_of_some hgives.symm, if_neg hmore, hnext, hcalls n (by omega)]

/-- A walk in strides whose calls give what their cursors say has the same pages, whatever fails. -/
theorem samePages {kind : Kind} {step : Nat} {reaches : List Exchange → Nat → Prop}
    (h : Settled g ready page gives) (hready : ready memory s)
    (hstrides : Strides kind step reaches page) (hstep : 0 < step) (schedule : Schedule) :
    SamePages g page memory s schedule where
  sound n := by
    rw [h.pagesWithin_eq hready]
    exact h.retriedWithin_isPrefix hready n "" schedule
  complete := by
    obtain ⟨calls, pages, hcalls⟩ := h.exists_calls hready hstrides hstep 0
    have hstart : bookmark kind (offsetMarker 0) = "" := rfl
    rw [hstart] at hcalls
    refine ⟨calls, pages, fun n hn => ⟨?_, ?_⟩⟩
    · rw [h.pagesWithin_eq hready, hcalls n hn]
    · have hsound := h.retriedWithin_isPrefix hready (n + schedule.failures) "" schedule
      have hcomplete := h.isPrefix_retriedWithin hready (Nat.le_refl (n + schedule.failures)) ""
      rw [hcalls _ (by omega)] at hsound
      rw [hcalls n hn] at hcomplete
      exact hsound.eq_of_length_le hcomplete.length_le

end Settled

/-! ## The walks of a connector -/

/-- At a vault that holds still a task that only reads, and heeds its answers, gives what its
cursor says. -/
theorem HoldsStill.settled {c : Connector} {g : Gateway σ} {isMounted : σ → Backend → Prop}
    (h : HoldsStill g c.backends isMounted) {t : String → Action (Page α)}
    (hreads : ∀ cursor, (t cursor).Asks IsRead) (hheeds : ∀ cursor, (t cursor).Heeds) (s₀ : σ) :
    Settled g (Ready c.backends isMounted) (fun cursor => c.mounted (t cursor)) fun cursor =>
      (Program.run g ((c.mounted (t cursor)).run .fresh) s₀).1.1.toOption where
  quiet hready cursor := by
    have hfresh := ready_fresh c.backends isMounted s₀
    exact ⟨h.toKeepsMounts.ready hready (t cursor), h.result_eq (hreads cursor) hready hfresh⟩
  disturbed {memory s} hready cursor schedule := by
    have hfresh := ready_fresh c.backends isMounted s₀
    have hready' : Ready c.backends (fun s b => isMounted s.1 b) memory (s, schedule) := hready
    refine ⟨h.toKeepsMounts.disturbed.ready hready' (t cursor), ?_⟩
    rcases disturbed_call (hheeds cursor) memory s schedule with
      ⟨rest, hrest, hrun⟩ | ⟨hfewer, e, hfails⟩
    · rw [hrun]
      exact .inl ⟨h.result_eq (hreads cursor) hready hfresh, hrest⟩
    · rw [hfails]
      exact .inr ⟨rfl, hfewer⟩

theorem exists_strides_list (c : Connector) (kind : Kind) (parent : Option ResourceId) :
    ∃ step reaches, 0 < step ∧ Strides kind step reaches (c.list kind parent) := by
  by_cases huser : kind = .user
  · subst huser
    exact ⟨_, _, by omega, strides_list_user c parent⟩
  · by_cases hrole : kind = .role
    · subst hrole
      exact ⟨_, _, Nat.one_pos, strides_list_role c parent⟩
    · exact ⟨_, _, Nat.one_pos, strides_list_whole c huser hrole parent⟩

/-- Failed pages can be retried at will. At a vault that holds still, with any of the requests of
any call failing, of a mounting pass as well as within a window, a caller who repeats each call that
failed with its cursor gets the pages of a walk without failures: the same items and cursors in the
same order, over every kind and over the grants of every policy. -/
theorem failed_pages_retried (c : Connector) {g : Gateway σ} {isMounted : σ → Backend → Prop}
    (h : HoldsStill g c.backends isMounted) {memory : Memory} {s : σ}
    (hready : Ready c.backends isMounted memory s) (schedule : Schedule) :
    (∀ kind parent, SamePages g (c.list kind parent) memory s schedule) ∧
    ∀ r, SamePages g (c.grants .policy r) memory s schedule := by
  constructor
  · intro kind parent
    obtain ⟨step, reaches, hstep, hstrides⟩ := exists_strides_list c kind parent
    have hsettled := h.settled (fun cursor => listKind_reads c kind parent cursor)
      (fun cursor => listKind_heeds c kind parent cursor) s
    exact hsettled.samePages hready hstrides hstep schedule
  · intro r
    have hsettled := h.settled (fun cursor => grantsOf_reads c .policy r cursor)
      (fun cursor => grantsOf_heeds c .policy r cursor) s
    exact hsettled.samePages hready (strides_grants_policy c r) (by omega) schedule

/-- A vault with three users, of whom two hold a policy. -/
def trio : Holdings :=
  { Holdings.small with
    users := Holdings.small.users ++ [("cid", ⟨⟨none, none, none, none⟩, none⟩)] }

/-- A connector that shows two users a page. -/
def pairwise : Connector := ⟨[⟨"userpass", .auth, "userpass", none, []⟩], 2⟩

/-- The first mounting pass is cut off after it got through. The second call reads one user of its
window and not the other, and the listing of the call after the first page does not get through. -/
def setbacks : Schedule :=
  [some ⟨.cancelled, true⟩, none, none, none, some ⟨.server 503 .null (by decide), true⟩,
    none, none, none, some ⟨.transport none "connection refused", false⟩]

/-- Two pages take two calls. With three failures they take five. -/
theorem failed_pages_retried_of_setbacks :
    let page := pairwise.grants .policy (Projection.ofPolicy ⟨"dev", none⟩ none)
    SamePages (standing trio) page .fresh [] setbacks ∧
      retriedWithin (disturbed (standing trio)) page 4 "" .fresh ([], setbacks) ≠
        pagesWithin (standing trio) page 2 "" .fresh [] ∧
      retriedWithin (disturbed (standing trio)) page 5 "" .fresh ([], setbacks) =
        pagesWithin (standing trio) page 2 "" .fresh [] ∧
      (pagesWithin (standing trio) page 2 "" .fresh []).map (fun p => p.items.length) = [2, 0] := by
  have hstill := standing_holdsStill trio pairwise.backends
  have hfresh := ready_fresh pairwise.backends (fun taken b => Endpoint.backend b ∈ taken) []
  refine ⟨(failed_pages_retried pairwise hstill hfresh setbacks).2 _, ?_, ?_, ?_⟩
  · decide +kernel
  · decide +kernel
  · decide +kernel

end VaultAccess.Connector
