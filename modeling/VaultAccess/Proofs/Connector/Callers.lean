import VaultAccess.Connector.Callers
import VaultAccess.Proofs.Connector.Mounting
import VaultAccess.Proofs.Connector.Writes

/-!
# One pass for all callers

Callers share the outcomes of one mounting pass. While nothing is remembered one caller at most is
at its pass, and passes are all that callers have asked, apart from looking up the token; a pass
that fails leaves nothing behind. Once outcomes are remembered no backend is enabled again, and
every call does what it does by itself. Each step keeps this, and so does every run.
-/
namespace VaultAccess.Connector

open Vault Program

variable {σ : Type}

theorem Memory.eq_fresh_or (memory : Memory) :
    memory = .fresh ∨ ∃ outcomes, memory = ⟨some outcomes⟩ := by
  obtain ⟨_ | outcomes⟩ := memory
  · exact .inl rfl
  · exact .inr ⟨outcomes, rfl⟩

/-! ## What calls ask by themselves -/

/-- A request that enables no backend. -/
def MountsNothing (r : Request) : Prop := ∀ b, r ≠ Backend.enabling b

theorem mountsNothing_of_isRead {r : Request} (h : IsRead r) : MountsNothing r := by
  rintro b rfl
  exact h rfl

theorem mountsNothing_of_concerns {user : String} {r : Request}
    (h : Membership.Concerns user r) : MountsNothing r := by
  obtain ⟨path, hpath, rfl | ⟨policies, rfl⟩⟩ := h
  · exact mountsNothing_of_isRead (isRead_get path)
  · intro b hb
    have hunder := Endpoint.isUnderUsers_userPath user "/policies"
    rw [← Endpoint.user_eq_userPath hpath] at hunder
    have hsame : path ++ "/policies" = Endpoint.backend b := congrArg Request.path hb
    rw [hsame, Endpoint.isUnderUsers_backend] at hunder
    cases hunder

theorem changeOn_mountsNothing (change : Change) (kind : Kind)
    (principal entitlement : ResourceId) :
    (changeOn change kind principal entitlement).Asks MountsNothing := by
  by_cases hmade : kind = .policy ∧ principal.kind = .user ∧ entitlement.kind = .policy
  · obtain ⟨rfl, hprincipal, hentitlement⟩ := hmade
    rw [Action.Asks, changeOn, Membership.run_perform change hprincipal hentitlement]
    exact (Membership.underLock_obeys _ _ _).imp (fun _ => mountsNothing_of_concerns) fun _ h => h
  · exact (changeOn_refuses change kind hmade).imp (fun _ h => h.elim) fun _ _ => trivial

/-- Only the validation of the token does without the backends. -/
theorem Call.eq_validate {call : Call} (h : call.mounts = false) : call = .validate := by
  cases call <;> first | rfl | cases h

/-- By itself no call enables a backend. -/
theorem Call.own_mountsNothing (c : Connector) (outcomes : List Backend.Outcome) (call : Call) :
    (call.own c outcomes).Asks MountsNothing := by
  have hreads {α : Type} {t : Action α} (ht : t.Asks IsRead) : t.Asks MountsNothing :=
    ht.imp fun _ => mountsNothing_of_isRead
  cases call with
  | bootstrap => exact .pure _
  | validate => exact .bind (hreads validate_reads) fun _ => .pure _
  | list kind parent cursor =>
    exact .bind (hreads (listKind_reads c kind parent cursor)) fun _ => .pure _
  | entitlements kind r => exact .pure _
  | grants kind r cursor => exact .bind (hreads (grantsOf_reads c kind r cursor)) fun _ => .pure _
  | grant kind principal e =>
    refine .bind ?_ fun _ => .pure _
    rw [grantOn_eq_changeOn]
    exact changeOn_mountsNothing _ _ _ _
  | revoke kind held =>
    refine .bind ?_ fun _ => .pure _
    rw [revokeOn_eq_changeOn]
    exact changeOn_mountsNothing _ _ _ _

/-- To validate is to look up the token. -/
theorem validate_asks : validate.Asks (· = .get Endpoint.lookupSelf) := by
  have hlookup : lookupSelf.Asks (· = .get Endpoint.lookupSelf) :=
    .bind (.request rfl) fun _ => .ofExcept _
  have hlift : Action.Asks (· = .get Endpoint.lookupSelf) (ExceptT.lift lookupSelf.run) := by
    rw [Action.Asks, Action.run_lift]
    exact Obeys.bind hlookup fun _ _ => trivial
  refine .bind hlift fun accepted => ?_
  cases accepted with
  | ok value => exact .note _ _
  | error e => exact .bind (.note _ _) fun _ => .throw e

namespace Callers

variable {c : Connector} {g : Gateway σ} {s s' : Callers σ} {i j : Nat} {d e : Caller}
  {stage : Stage} {xs : List Exchange}

/-! ## Steps -/

/-- The steps that a caller can take, by what it does. -/
inductive Move (c : Connector) (g : Gateway σ) (s : Callers σ) (i : Nat) (d : Caller) :
    Callers σ → Prop
  | start (hstage : d.stage = .waiting) (hmounts : d.call.mounts = false) :
    Move c g s i d (s.setStage i (.running (d.call.own c []).run))
  | enter (hstage : d.stage = .waiting) (hmounts : d.call.mounts = true)
    (hfree : s.memory = .fresh → s.isMounting = false) :
    Move c g s i d (s.setStage i (.mounting ((Session.bootstrap c.backends).run s.memory)))
  | mountAsk (r : Request) (next : Answer → Program (Except Fault (List Backend.Outcome) × Memory))
    (hstage : d.stage = .mounting (.ask r next)) :
    Move c g s i d ((s.asked g i r).setStage i (.mounting (next (g.answer r s.vault).1)))
  | mountNote (line : LogLine) (next : Program (Except Fault (List Backend.Outcome) × Memory))
    (hstage : d.stage = .mounting (.note line next)) :
    Move c g s i d ({ s with vault := g.log line s.vault }.setStage i (.mounting next))
  | mounted (r : Except Fault (List Backend.Outcome)) (memory : Memory)
    (hstage : d.stage = .mounting (.done (r, memory))) :
    Move c g s i d ({ s with memory }.setStage i (.afterPass c d.call r))
  | ask (r : Request) (next : Answer → Program (Except Fault Reply))
    (hstage : d.stage = .running (.ask r next)) :
    Move c g s i d ((s.asked g i r).setStage i (.running (next (g.answer r s.vault).1)))
  | note (line : LogLine) (next : Program (Except Fault Reply))
    (hstage : d.stage = .running (.note line next)) :
    Move c g s i d ({ s with vault := g.log line s.vault }.setStage i (.running next))
  | finish (result : Except Fault Reply) (hstage : d.stage = .running (.done result)) :
    Move c g s i d (s.setStage i (.done result))

/-- Every step is a move of the caller it names. -/
theorem move_of_step (h : step c g s i = some s') :
    ∃ d, s.callers[i]? = some d ∧ Move c g s i d s' := by
  unfold step at h
  split at h
  · cases h
  · rename_i d hd
    refine ⟨d, hd, ?_⟩
    split at h
    · split at h
      · split at h
        · cases h
        · rename_i hmounts hbusy
          cases h
          refine .enter ‹_› hmounts fun hfresh => ?_
          simpa [hfresh, Memory.fresh] using hbusy
      · rename_i hmounts
        cases h
        exact .start ‹_› (Bool.not_eq_true _ ▸ hmounts)
    · cases h
      exact .mounted _ _ ‹_›
    · cases h
      exact .mountAsk _ _ ‹_›
    · cases h
      exact .mountNote _ _ ‹_›
    · cases h
      exact .finish _ ‹_›
    · cases h
      exact .ask _ _ ‹_›
    · cases h
      exact .note _ _ ‹_›
    · cases h

theorem getElem?_setStage (hd : s.callers[i]? = some d) (stage : Stage) (j : Nat) :
    (s.setStage i stage).callers[j]? = if j = i then some { d with stage } else s.callers[j]? := by
  rw [setStage, List.getElem?_modify]
  by_cases h : j = i
  · subst h
    simp [hd]
  · simp [h, Ne.symm h]

/-- A caller after one of them went to another stage. -/
theorem of_getElem?_setStage (hd : s.callers[i]? = some d)
    (he : (s.setStage i stage).callers[j]? = some e) :
    j = i ∧ e = { d with stage } ∨ j ≠ i ∧ s.callers[j]? = some e := by
  rw [getElem?_setStage hd] at he
  split at he
  · exact .inl ⟨‹_›, (Option.some.inj he).symm⟩
  · exact .inr ⟨‹_›, he⟩

@[simp] theorem exchanges_setStage (s : Callers σ) (i : Nat) (stage : Stage) (j : Nat) :
    (s.setStage i stage).exchanges j = s.exchanges j := rfl

/-- Requests of one caller are added to what it asked, and to nothing else. -/
theorem exchanges_of_sent {asked : List (Nat × Exchange)} (hsent : s'.sent = s.sent ++ asked)
    (hasked : ∀ p ∈ asked, p.1 = i) (j : Nat) :
    s'.exchanges j = s.exchanges j ++ if j = i then asked.map (·.2) else [] := by
  rw [exchanges, hsent, List.filter_append, List.map_append, exchanges]
  congr 1
  by_cases h : j = i
  · have hall : asked.filter (fun p => p.1 == j) = asked :=
      List.filter_eq_self.mpr fun p hp => by simp [hasked p hp, h]
    rw [hall, if_pos h]
  · have hnone : asked.filter (fun p => p.1 == j) = [] :=
      List.filter_eq_nil_iff.mpr fun p hp => by simp [hasked p hp, Ne.symm h]
    rw [hnone, if_neg h]
    rfl

theorem exchanges_asked_self (g : Gateway σ) (s : Callers σ) (i : Nat) (r : Request) :
    (s.asked g i r).exchanges i = s.exchanges i ++ [⟨r, (g.answer r s.vault).1⟩] := by
  simp [exchanges, asked]

/-! ## The course of a caller -/

/-- How a call came past the mounting of the backends: it does not need them, or it knows the
outcomes that are remembered, from a pass of its own or of another caller. -/
def Entered (c : Connector) (memory : Memory) (call : Call) (pass : List Exchange)
    (outcomes : List Backend.Outcome) : Prop :=
  call.mounts = false ∧ pass = [] ∨
    call.mounts = true ∧ memory = ⟨some outcomes⟩ ∧
      (pass = [] ∨ Backend.Pass c.backends pass (.ok outcomes))

/-- What a caller asked that is past the mounting of the backends, and is left with `rest`: what it
asked in a pass, and then what the call asks by itself. -/
def Owns (c : Connector) (memory : Memory) (call : Call) (xs : List Exchange)
    (rest : Program (Except Fault Reply)) : Prop :=
  ∃ pass own outcomes, xs = pass ++ own ∧ Entered c memory call pass outcomes ∧
    Plays (call.own c outcomes).run own rest

/-- What a caller has asked when it is at a stage. -/
def Course (c : Connector) (memory : Memory) (call : Call) (xs : List Exchange) : Stage → Prop
  | .waiting => xs = []
  | .mounting rest => call.mounts = true ∧ Plays ((Session.bootstrap c.backends).run memory) xs rest
  | .running rest => Owns c memory call xs rest
  | .done result =>
    (call.mounts = true ∧ ∃ e, Backend.Pass c.backends xs (.error e) ∧ result = .error e) ∨
      Owns c memory call xs (.done result)

theorem Owns.append {call : Call} {ys : List Exchange} {rest rest' : Program (Except Fault Reply)}
    {memory : Memory} (h : Owns c memory call xs rest) (hrest : Plays rest ys rest') :
    Owns c memory call (xs ++ ys) rest' := by
  obtain ⟨pass, own, outcomes, rfl, hentered, hown⟩ := h
  exact ⟨pass, own ++ ys, outcomes, List.append_assoc .., hentered, hown.append hrest⟩

theorem Owns.learn {call : Call} {rest : Program (Except Fault Reply)}
    (h : Owns c .fresh call xs rest) (memory : Memory) : Owns c memory call xs rest := by
  obtain ⟨pass, own, outcomes, hxs, hentered, hown⟩ := h
  refine ⟨pass, own, outcomes, hxs, ?_, hown⟩
  rcases hentered with hnot | ⟨-, hmemory, -⟩
  · exact .inl hnot
  · cases hmemory

/-- A caller that is not at its pass keeps its course when outcomes come to be remembered. -/
theorem Course.learn {call : Call} (h : Course c .fresh call xs stage)
    (hstage : stage.isMounting = false) (memory : Memory) : Course c memory call xs stage := by
  cases stage with
  | waiting => exact h
  | mounting rest => cases hstage
  | running rest => exact Owns.learn h memory
  | done result => exact Or.imp_right (fun howns => Owns.learn howns memory) h

/-- A caller that comes to the end of its mounting had its pass refused, mounted all backends, or
found outcomes that are remembered. -/
theorem Course.of_mounting {memory memory' : Memory} {call : Call}
    {r : Except Fault (List Backend.Outcome)}
    (h : Course c memory call xs (.mounting (.done (r, memory')))) :
    (memory = .fresh ∧ memory' = .fresh ∧ ∃ e, r = .error e ∧
      Backend.Pass c.backends xs (.error e)) ∨
    ∃ outcomes, r = .ok outcomes ∧ memory' = ⟨some outcomes⟩ ∧
      (memory = .fresh ∧ Backend.Pass c.backends xs (.ok outcomes) ∨
        memory = ⟨some outcomes⟩ ∧ xs = []) := by
  obtain ⟨-, hplays⟩ := h
  rcases memory.eq_fresh_or with rfl | ⟨outcomes, rfl⟩
  · obtain ⟨hpass, hremembers⟩ := pass_of_bootstrap hplays
    cases r with
    | error e =>
      cases hremembers
      exact .inl ⟨rfl, rfl, e, rfl, hpass⟩
    | ok outcomes =>
      cases hremembers
      exact .inr ⟨outcomes, rfl, rfl, .inl ⟨rfl, hpass⟩⟩
  · obtain ⟨rfl, hrest⟩ := plays_bootstrap_mounted hplays
    cases hrest
    exact .inr ⟨outcomes, rfl, rfl, .inr ⟨rfl, rfl⟩⟩

/-- Every caller keeps its course, one at most is at a pass while nothing is remembered, and what is
remembered are the outcomes of a pass. -/
structure Disciplined (c : Connector) (s : Callers σ) : Prop where
  course : ∀ (j : Nat) (d : Caller), s.callers[j]? = some d →
    Course c s.memory d.call (s.exchanges j) d.stage
  alone : s.memory = .fresh → ∀ (j k : Nat) (d e : Caller), s.callers[j]? = some d →
    s.callers[k]? = some e → d.stage.isMounting = true → e.stage.isMounting = true → j = k
  earned : ∀ outcomes, s.memory = ⟨some outcomes⟩ →
    ∃ j pass own, s.exchanges j = pass ++ own ∧ Backend.Pass c.backends pass (.ok outcomes)
  known : ∀ p ∈ s.sent, p.1 < s.callers.length

theorem Disciplined.start (c : Connector) (calls : List Call) (vault : σ) :
    Disciplined c (Callers.start calls vault) := by
  have hstage {j : Nat} {d : Caller} (hd : (Callers.start calls vault).callers[j]? = some d) :
      d.stage = .waiting := by
    obtain ⟨call, -, rfl⟩ := List.mem_map.mp (List.mem_of_getElem? hd)
    rfl
  constructor
  · intro j d hd
    rw [hstage hd]
    rfl
  · intro hfresh j k d e hd he hmounting
    rw [hstage hd] at hmounting
    cases hmounting
  · intro outcomes hmemory
    cases hmemory
  · exact fun p hp => nomatch hp

/-- While nothing is remembered no one but the caller that is at its pass is at one. -/
theorem Disciplined.not_mounting (h : Disciplined c s) (hfresh : s.memory = .fresh)
    (hd : s.callers[i]? = some d) (hmounting : d.stage.isMounting = true) (hne : j ≠ i)
    (he : s.callers[j]? = some e) : e.stage.isMounting = false :=
  Bool.eq_false_iff.mpr fun hmounting' =>
    hne (h.alone hfresh j i e d he hd hmounting' hmounting)

/-- A caller may go to a stage that is on its course after it asked some requests, while what is
remembered stays. It may begin a pass if no one is at one. -/
theorem Disciplined.goOn (h : Disciplined c s) (hd : s.callers[i]? = some d) {t : Callers σ}
    {asked : List (Nat × Exchange)} (hcallers : t.callers = s.callers)
    (hmemory : t.memory = s.memory) (hsent : t.sent = s.sent ++ asked)
    (hasked : ∀ p ∈ asked, p.1 = i) (hcourse : Course c s.memory d.call (t.exchanges i) stage)
    (hfree : s.memory = .fresh → stage.isMounting = true → d.stage.isMounting = false →
      s.isMounting = false) : Disciplined c (t.setStage i stage) := by
  have hdt : t.callers[i]? = some d := hcallers ▸ hd
  have hexchanges := exchanges_of_sent hsent hasked
  constructor
  · intro j e he
    rw [exchanges_setStage]
    change Course c t.memory _ _ _
    rw [hmemory]
    obtain ⟨rfl, rfl⟩ | ⟨hne, he⟩ := of_getElem?_setStage hdt he
    · exact hcourse
    · rw [hexchanges j, if_neg hne, List.append_nil]
      exact h.course j e (hcallers ▸ he)
  · intro hfresh j k e e' he he' hmounting hmounting'
    have hfresh : s.memory = .fresh := hmemory ▸ hfresh
    -- no one but this caller is at a pass if this caller is
    have hothers {j : Nat} {e : Caller} (hne : j ≠ i) (he : s.callers[j]? = some e)
        (hmine : stage.isMounting = true) : e.stage.isMounting = false := by
      cases hpass : d.stage.isMounting with
      | true => exact h.not_mounting hfresh hd hpass hne he
      | false =>
        have hany := hfree hfresh hmine hpass
        simp only [isMounting, List.any_eq_false, Bool.not_eq_true] at hany
        exact hany e (List.mem_of_getElem? he)
    obtain ⟨rfl, rfl⟩ | ⟨hne, hold⟩ := of_getElem?_setStage hdt he <;>
      obtain ⟨rfl, rfl⟩ | ⟨hne', hold'⟩ := of_getElem?_setStage hdt he'
    · rfl
    · rw [hothers hne' (hcallers ▸ hold') hmounting] at hmounting'
      cases hmounting'
    · rw [hothers hne (hcallers ▸ hold) hmounting'] at hmounting
      cases hmounting
    · exact h.alone hfresh j k e e' (hcallers ▸ hold) (hcallers ▸ hold') hmounting hmounting'
  · intro outcomes houtcomes
    obtain ⟨j, pass, own, hsplit, hpass⟩ := h.earned outcomes (hmemory ▸ houtcomes)
    refine ⟨j, pass, own ++ if j = i then asked.map (·.2) else [], ?_, hpass⟩
    rw [exchanges_setStage, hexchanges j, hsplit, List.append_assoc]
  · intro p hp
    have hlength : (t.setStage i stage).callers.length = s.callers.length := by
      rw [setStage, List.length_modify, hcallers]
    rw [hlength]
    have hp : p ∈ s.sent ++ asked := hsent ▸ hp
    rcases List.mem_append.mp hp with hp | hp
    · exact h.known p hp
    · rw [hasked p hp]
      exact (List.getElem?_eq_some_iff.mp hd).1

/-- The outcomes of a pass may be remembered. -/
theorem Disciplined.learn (h : Disciplined c s) (hd : s.callers[i]? = some d)
    (hfresh : s.memory = .fresh) (hmounting : d.stage.isMounting = true)
    (hmounts : d.call.mounts = true) {outcomes : List Backend.Outcome}
    (hpass : Backend.Pass c.backends (s.exchanges i) (.ok outcomes)) :
    Disciplined c ({ s with memory := ⟨some outcomes⟩ }.setStage i
      (.running (d.call.own c outcomes).run)) := by
  constructor
  · intro j e he
    rw [exchanges_setStage]
    obtain ⟨rfl, rfl⟩ | ⟨hne, he⟩ := of_getElem?_setStage (s := { s with memory := _ }) hd he
    · have hentered : Entered c ⟨some outcomes⟩ d.call (s.exchanges j) outcomes :=
        .inr ⟨hmounts, rfl, .inr hpass⟩
      exact ⟨s.exchanges j, [], outcomes, (List.append_nil _).symm, hentered, .stop _⟩
    · have hcourse := h.course j e he
      rw [hfresh] at hcourse
      exact hcourse.learn (h.not_mounting hfresh hd hmounting hne he) _
  · intro hmemory
    cases hmemory
  · intro others hothers
    cases hothers
    exact ⟨i, s.exchanges i, [], (List.append_nil _).symm, hpass⟩
  · intro p hp
    rw [setStage, List.length_modify]
    exact h.known p hp

/-- Every step keeps the discipline. -/
theorem Disciplined.step (h : Disciplined c s) (hstep : step c g s i = some s') :
    Disciplined c s' := by
  obtain ⟨d, hd, hmove⟩ := move_of_step hstep
  have hcourse := h.course i d hd
  have hnone : s.sent = s.sent ++ [] := (List.append_nil _).symm
  cases hmove with
  | start hstage hmounts =>
    rw [hstage] at hcourse
    refine h.goOn hd rfl rfl hnone nofun ?_ fun _ hmounting => nomatch hmounting
    exact ⟨[], [], [], hcourse, .inl ⟨hmounts, rfl⟩, .stop _⟩
  | enter hstage hmounts hfree =>
    rw [hstage] at hcourse
    refine h.goOn hd rfl rfl hnone nofun ⟨hmounts, ?_⟩ fun hfresh _ _ => hfree hfresh
    rw [show s.exchanges i = [] from hcourse]
    exact .stop _
  | mountAsk r next hstage =>
    rw [hstage] at hcourse
    refine h.goOn hd rfl rfl rfl (by simp) ⟨hcourse.1, ?_⟩ fun _ _ hnot => ?_
    · rw [exchanges_asked_self]
      exact hcourse.2.answered _
    · rw [hstage] at hnot
      cases hnot
  | mountNote line next hstage =>
    rw [hstage] at hcourse
    refine h.goOn hd rfl rfl hnone nofun ⟨hcourse.1, hcourse.2.noted⟩ fun _ _ hnot => ?_
    rw [hstage] at hnot
    cases hnot
  | mounted r memory hstage =>
    rw [hstage] at hcourse
    rcases hcourse.of_mounting with ⟨hfresh, rfl, e, rfl, hpass⟩ |
      ⟨outcomes, rfl, rfl, ⟨hfresh, hpass⟩ | ⟨hmemory, hxs⟩⟩
    · refine h.goOn hd rfl hfresh.symm hnone nofun ?_ fun _ hmounting => nomatch hmounting
      exact .inl ⟨hcourse.1, e, hpass, rfl⟩
    · exact h.learn hd hfresh (by rw [hstage]; rfl) hcourse.1 hpass
    · refine h.goOn hd rfl hmemory.symm hnone nofun ?_ fun _ hmounting => nomatch hmounting
      exact ⟨[], [], outcomes, hxs, .inr ⟨hcourse.1, hmemory, .inl rfl⟩, .stop _⟩
  | ask r next hstage =>
    rw [hstage] at hcourse
    refine h.goOn hd rfl rfl rfl (by simp) ?_ fun _ hmounting => nomatch hmounting
    rw [exchanges_asked_self]
    exact Owns.append hcourse (.ask (.stop _))
  | note line next hstage =>
    rw [hstage] at hcourse
    refine h.goOn hd rfl rfl hnone nofun ?_ fun _ hmounting => nomatch hmounting
    have hnoted := Owns.append hcourse (.note (.stop next))
    rwa [List.append_nil] at hnoted
  | finish result hstage =>
    rw [hstage] at hcourse
    exact h.goOn hd rfl rfl hnone nofun (.inr hcourse) fun _ hmounting => nomatch hmounting

/-- What is remembered changes only when a pass succeeds, and only if nothing was remembered. -/
theorem Disciplined.memory_of_step (h : Disciplined c s) (hstep : Callers.step c g s i = some s') :
    s'.memory = s.memory ∨ s.memory = .fresh ∧
      ∃ outcomes, s'.memory = ⟨some outcomes⟩ ∧
        Backend.Pass c.backends (s.exchanges i) (.ok outcomes) := by
  obtain ⟨d, hd, hmove⟩ := move_of_step hstep
  cases hmove with
  | mounted r memory hstage =>
    have hcourse := h.course i d hd
    rw [hstage] at hcourse
    rcases hcourse.of_mounting with ⟨hfresh, rfl, -⟩ |
      ⟨outcomes, -, rfl, ⟨hfresh, hpass⟩ | ⟨hmemory, -⟩⟩
    · exact .inl hfresh.symm
    · exact .inr ⟨hfresh, outcomes, rfl, hpass⟩
    · exact .inl hmemory.symm
  | _ => exact .inl rfl

/-- What a caller asks is added to what was sent. Once outcomes are remembered it enables no
backend. -/
theorem Disciplined.sent_of_step (h : Disciplined c s) (hstep : Callers.step c g s i = some s') :
    ∃ asked, s'.sent = s.sent ++ asked ∧ (∀ p ∈ asked, p.1 = i) ∧
      (s.memory ≠ .fresh → ∀ p ∈ asked, MountsNothing p.2.request) := by
  obtain ⟨d, hd, hmove⟩ := move_of_step hstep
  have hcourse := h.course i d hd
  have hnone : ∃ asked, s.sent = s.sent ++ asked ∧ (∀ p ∈ asked, p.1 = i) ∧
      (s.memory ≠ .fresh → ∀ p ∈ asked, MountsNothing p.2.request) :=
    ⟨[], (List.append_nil _).symm, nofun, fun _ => nofun⟩
  cases hmove with
  | mountAsk r next hstage =>
    refine ⟨_, rfl, by simp, fun hmemory => ?_⟩
    rw [hstage] at hcourse
    obtain ⟨-, hplays⟩ := hcourse
    rcases s.memory.eq_fresh_or with hfresh | ⟨outcomes, hremembers⟩
    · exact absurd hfresh hmemory
    · rw [hremembers] at hplays
      cases (plays_bootstrap_mounted hplays).2
  | ask r next hstage =>
    refine ⟨_, rfl, by simp, fun _ => ?_⟩
    rw [hstage] at hcourse
    obtain ⟨pass, own, outcomes, -, -, hown⟩ := hcourse
    have hrest := ((d.call.own_mountsNothing c outcomes).plays hown).2
    simpa using hrest.1
  | _ => exact hnone

/-- No step changes what the calls are. -/
theorem calls_of_step (h : step c g s i = some s') :
    s'.callers.map Caller.call = s.callers.map Caller.call := by
  have hset (t : Callers σ) (stage : Stage) :
      (t.setStage i stage).callers.map Caller.call = t.callers.map Caller.call := by
    apply List.ext_getElem?
    intro j
    simp only [setStage, List.getElem?_map, List.getElem?_modify]
    cases t.callers[j]? with
    | none => rfl
    | some d => by_cases h : i = j <;> simp [h]
  obtain ⟨d, -, hmove⟩ := move_of_step h
  cases hmove <;> rw [hset] <;> rfl

/-! ## Runs -/

theorem steps_cons (c : Connector) (g : Nat → Gateway σ) (s : Callers σ) (i : Nat)
    (order : List Nat) :
    steps c g s (i :: order) = (step c (g i) s i).bind fun s => steps c g s order := rfl

section runs

variable {g : Nat → Gateway σ} {order : List Nat}

/-- What every step keeps is kept by every run. -/
theorem steps_induction {P : Callers σ → Prop}
    (hP : ∀ s i s', P s → step c (g i) s i = some s' → P s') (h : P s)
    (hsteps : steps c g s order = some s') : P s' := by
  induction order generalizing s with
  | nil =>
    cases hsteps
    exact h
  | cons i order ih =>
    rw [steps_cons] at hsteps
    obtain ⟨s₁, hstep, hrest⟩ := Option.bind_eq_some_iff.mp hsteps
    exact ih (hP s i s₁ h hstep) hrest

theorem Disciplined.steps (h : Disciplined c s) (hsteps : steps c g s order = some s') :
    Disciplined c s' := steps_induction (fun _ _ _ h hstep => h.step hstep) h hsteps

theorem calls_of_steps (hsteps : steps c g s order = some s') :
    s'.callers.map Caller.call = s.callers.map Caller.call :=
  steps_induction (P := fun t => t.callers.map Caller.call = s.callers.map Caller.call)
    (fun _ _ _ h hstep => (calls_of_step hstep).trans h) rfl hsteps

/-- Once outcomes are remembered they stay, and no backend is enabled any more. -/
theorem Disciplined.later (h : Disciplined c s) (hmemory : s.memory ≠ .fresh)
    (hsteps : Callers.steps c g s order = some s') :
    s'.memory = s.memory ∧ ∃ later, s'.sent = s.sent ++ later ∧
      ∀ p ∈ later, MountsNothing p.2.request := by
  refine (steps_induction (P := fun t => Disciplined c t ∧ t.memory = s.memory ∧
      ∃ later, t.sent = s.sent ++ later ∧ ∀ p ∈ later, MountsNothing p.2.request)
    (fun t i t' ⟨ht, hsame, later, hsent, hlater⟩ hstep => ?_)
    ⟨h, rfl, [], (List.append_nil _).symm, nofun⟩ hsteps).2
  obtain ⟨asked, hasked, -, hnothing⟩ := ht.sent_of_step hstep
  refine ⟨ht.step hstep, ?_, later ++ asked, ?_, fun p hp => ?_⟩
  · rcases ht.memory_of_step hstep with hkeep | ⟨hfresh, -⟩
    · exact hkeep.trans hsame
    · exact absurd (hsame.symm.trans hfresh) hmemory
  · rw [hasked, hsent, List.append_assoc]
  · rcases List.mem_append.mp hp with hp | hp
    · exact hlater p hp
    · exact hnothing (hsame ▸ hmemory) p hp

/-- Callers only ask more. -/
theorem Disciplined.exchanges_prefix (h : Disciplined c s)
    (hsteps : Callers.steps c g s order = some s') (j : Nat) :
    s.exchanges j <+: s'.exchanges j := by
  refine (steps_induction (P := fun t => Disciplined c t ∧ s.exchanges j <+: t.exchanges j)
    (fun t i t' ⟨ht, hinit⟩ hstep => ?_) ⟨h, List.prefix_rfl⟩ hsteps).2
  obtain ⟨asked, hsent, hasked, -⟩ := ht.sent_of_step hstep
  refine ⟨ht.step hstep, hinit.trans ?_⟩
  rw [exchanges_of_sent hsent hasked j]
  exact List.prefix_append _ _

end runs

end Callers

end VaultAccess.Connector
