import VaultAccess.Proofs.Connector.Heeding
import VaultAccess.Proofs.Connector.Writes

/-!
# No silent loss

A full sync stops at the first request that fails or cannot do with its answer, and returns that
fault instead of a report. No failure is taken for an empty listing: where all answers can be done
with there is a report.
-/
namespace VaultAccess

open Vault Program

variable {σ : Type}

namespace Backend

variable {b : Backend} {answer : Answer}

theorem occursIn_iff {α : Type} [BEq α] [LawfulBEq α] {part text : List α} :
    occursIn part text = true ↔ part <:+: text := by
  induction text with
  | nil => simp [occursIn]
  | cons c rest ih =>
    rw [occursIn, Bool.or_eq_true, ih, List.isPrefixOf_iff_prefix, List.infix_cons_iff]

/-- An answer that says that the path is taken has a message with the vault's words for it. -/
theorem saysInUse_iff {r : Response} :
    saysInUse r = true ↔
      r.status = 400 ∧ ∃ m ∈ r.errorMessages, alreadyInUse.toList <:+: m.toList := by
  simp only [saysInUse, Bool.and_eq_true, beq_iff_eq, List.any_eq_true, occursIn_iff]

/-- An answer that says that a path is taken. -/
def inUse (path : String) : Response :=
  Holdings.complaint 400 ("path is already in use at " ++ path ++ "/")

theorem outcome_of_inUse {path : String} {r : Response} (hstatus : r.status = 400)
    (hmessage : "path is already in use at " ++ path ++ "/" ∈ r.errorMessages) :
    b.outcome (.ok r) = .ok .alreadyEnabled := by
  have hsuccess : ¬r.isSuccess := by simp [Response.isSuccess, hstatus]
  have hinUse : saysInUse r := by
    refine saysInUse_iff.mpr ⟨hstatus, _, hmessage, ?_⟩
    refine ⟨[], (" at " ++ path ++ "/").toList, ?_⟩
    simp [alreadyInUse, String.toList_append]
  rw [outcome, classify, if_neg hsuccess, if_pos hinUse]

theorem reads_enabling (b : Backend) (r : Response) :
    (enabling b).reads r = if r.isSuccess then .ok () else .error r.fault := by
  change r.requireSuccess.map _ = _
  unfold Response.requireSuccess
  split <;> rfl

/-- Where the answer to the enabling of a backend is acceptable the backend is mounted. -/
theorem outcome_of_acceptable (h : Exchange.Acceptable ⟨enabling b, answer⟩) :
    ∃ o, b.outcome answer = .ok o := by
  obtain ⟨r, rfl, hr⟩ := Exchange.acceptable_iff.mp h
  by_cases hsuccess : r.isSuccess
  · exact ⟨.enabled, by rw [outcome, classify, if_pos hsuccess]⟩
  · obtain hreads | ⟨hlist, -⟩ | ⟨-, hinUse⟩ := hr
    · rw [reads_enabling, if_neg hsuccess] at hreads
      cases hreads
    · cases hlist
    · have hinUse := saysInUse_iff.mpr hinUse
      exact ⟨.alreadyEnabled, by rw [outcome, classify, if_neg hsuccess, if_pos hinUse]⟩

/-- Where it is not acceptable the backend is refused, with the fault of the request for its
source. -/
theorem outcome_of_not_acceptable (h : ¬Exchange.Acceptable ⟨enabling b, answer⟩) :
    ∃ e, Exchange.reading ⟨enabling b, answer⟩ = .error e ∧
      b.outcome answer = .error (.bootstrap b.path e) := by
  cases answer with
  | error e => exact ⟨e, rfl, rfl⟩
  | ok r =>
    have hsuccess : ¬r.isSuccess := fun hsuccess =>
      h (Exchange.acceptable_iff.mpr
        ⟨r, rfl, .inl (by rw [reads_enabling, if_pos hsuccess])⟩)
    have hinUse : ¬saysInUse r := fun hinUse =>
      h ⟨r, rfl, .inr (.inr ⟨rfl, saysInUse_iff.mp hinUse⟩)⟩
    refine ⟨r.fault, ?_, ?_⟩
    · exact (reads_enabling b r).trans (if_neg hsuccess)
    · rw [outcome, classify, if_neg hsuccess, if_neg hinUse]

/-- An answer that is not acceptable is the last one of a pass, which fails with its fault. -/
theorem Pass.fails {backends : List Backend} {pass : List Exchange}
    {result : Except Fault (List Outcome)} (h : Pass backends pass result) {i : Nat} {x : Exchange}
    (hx : pass[i]? = some x) (hnot : ¬x.Acceptable) :
    pass.length = i + 1 ∧ ∃ e b, x.reading = .error e ∧ backends[i]? = some b ∧
      x.request = enabling b ∧ result = .error (.bootstrap b.path e) := by
  obtain ⟨b, hb, hrequest, hrefused⟩ := h.getElem? hx
  obtain ⟨request, answer⟩ := x
  obtain rfl : request = enabling b := hrequest
  obtain ⟨e, hreading, houtcome⟩ := outcome_of_not_acceptable hnot
  obtain ⟨hlength, hresult⟩ := hrefused _ houtcome
  exact ⟨hlength, e, b, hreading, hb, rfl, hresult⟩

/-- A pass fails only at an answer that is not acceptable. -/
theorem Pass.exists_not_acceptable {backends : List Backend} {pass : List Exchange} {e : Fault}
    (h : Pass backends pass (.error e)) : ∃ x ∈ pass, ¬x.Acceptable := by
  obtain ⟨b, -, x, hx, hrequest, hrefused⟩ := h.exists_refused
  refine ⟨x, hx, fun hacceptable => ?_⟩
  obtain ⟨request, answer⟩ := x
  obtain rfl : request = enabling b := hrequest
  obtain ⟨o, ho⟩ := outcome_of_acceptable hacceptable
  rw [hrefused] at ho
  cases ho

end Backend

namespace Connector

/-- What a full sync does once the backends are mounted. -/
def walkAll (c : Connector) : Session Report := do
  let report ← c.syncKinds Kind.all .empty
  Session.ofTask (Action.note .info "Sync pass complete")
  return report

theorem fullSync_eq (c : Connector) :
    c.fullSync = Session.bootstrap c.backends >>= fun _ => c.walkAll := rfl

theorem walkAll_heeds (c : Connector) : Session.Heeds c.walkAll :=
  .bind (syncKinds_heeds c _ _) fun _ => .bind (.ofTask (.note _ _)) fun _ => .pure _

theorem walkAll_reads (c : Connector) : Session.Asks IsRead c.walkAll :=
  .bind (syncKinds_reads c _ _) fun _ => .bind (.ofTask (.note _ _)) fun _ => .pure _

theorem walkAll_relies (c : Connector) :
    Session.Relies Exchange.Sound (fun _ => True) c.walkAll :=
  .bind (syncKinds_relies c _ _) fun _ _ => .bind (.ofTask (.note _ _)) fun _ _ => .pure trivial

variable (c : Connector) (g : Gateway σ) (memory : Memory) (s : σ)

/-- The exchanges of a full sync. -/
def syncTrace : List Exchange := Program.trace g (c.fullSync.run memory) s

/-- What a full sync gives. -/
def syncResult : Except Fault Report := (Program.run g (c.fullSync.run memory) s).1.1

/-- The first request that fails or cannot do with its answer is the last one of a full sync, which
ends with the fault of that request. -/
theorem fullSync_fails {i : Nat} {x : Exchange}
    (hx : (c.syncTrace g memory s)[i]? = some x) (hnot : ¬x.Acceptable) :
    (c.syncTrace g memory s).length = i + 1 ∧ ∃ e, x.reading = .error e ∧
      (x.request.method ≠ .post ∧ c.syncResult g memory s = .error e ∨
        ∃ b, c.backends[i]? = some b ∧ x.request = Backend.enabling b ∧
          c.syncResult g memory s = .error (.bootstrap b.path e)) := by
  rw [syncTrace, fullSync_eq] at hx ⊢
  rw [syncResult, fullSync_eq]
  rcases run_bootstrap_bind_cases c.backends (fun _ => c.walkAll) memory g s with
    ⟨pass, e, hpass, htrace, hrun⟩ | ⟨pass, outcomes, s', hpass, htrace, hrun⟩
  · rw [htrace] at hx ⊢
    obtain ⟨hlength, e', b, hreading, hb, hrequest, hresult⟩ := hpass.fails hx hnot
    exact ⟨hlength, e', hreading, .inr ⟨b, hb, hrequest, by rw [hrun, Except.error.inj hresult]⟩⟩
  · rw [htrace] at hx ⊢
    by_cases hfirst : i < pass.length
    · rw [List.getElem?_append_left hfirst] at hx
      rcases hpass with hpass | ⟨rfl, -⟩
      · obtain ⟨-, e, b, -, -, -, hresult⟩ := hpass.fails hx hnot
        cases hresult
      · cases hx
    · rw [List.getElem?_append_right (by omega)] at hx
      obtain ⟨hlength, e, hreading, hresult⟩ := (c.walkAll_heeds outcomes).run hx hnot
      have hread : x.request.method ≠ .post :=
        (c.walkAll_reads outcomes).trace g s' x (List.mem_of_getElem? hx)
      refine ⟨?_, e, hreading, .inl ⟨hread, by rw [hrun, hresult]⟩⟩
      rw [List.length_append, hlength]
      omega

/-- A full sync all of whose exchanges are sound gives a report. -/
theorem fullSync_succeeds
    (hsound : ∀ x ∈ c.syncTrace g memory s, x.Sound) :
    ∃ report, c.syncResult g memory s = .ok report := by
  rw [syncTrace, fullSync_eq] at hsound
  rw [syncResult, fullSync_eq]
  rcases run_bootstrap_bind_cases c.backends (fun _ => c.walkAll) memory g s with
    ⟨pass, e, hpass, htrace, hrun⟩ | ⟨pass, outcomes, s', hpass, htrace, hrun⟩
  · obtain ⟨x, hx, hnot⟩ := hpass.exists_not_acceptable
    exact absurd (hsound x (htrace ▸ hx)).acceptable hnot
  · have hown : ∀ x ∈ Program.trace g (c.walkAll.run ⟨some outcomes⟩) s', x.Sound := fun x hx =>
      hsound x (htrace ▸ List.mem_append_right pass hx)
    obtain ⟨report, hreport, -⟩ := (c.walkAll_relies outcomes).run hown
    exact ⟨report, by rw [hrun, hreport]⟩

/-! ## Answers without a body -/

/-- A success without a body can be done with by every request, and lists no users. -/
theorem sound_of_noContent (r : Request) : Exchange.Sound ⟨r, .ok ⟨204, .null⟩⟩ := by
  have hfits : r.Fits .null := by
    unfold Request.Fits
    repeat' split
    all_goals first | exact ⟨_, rfl⟩ | trivial
  refine ⟨⟨_, rfl, .inl ⟨by decide, hfits⟩⟩, ?_⟩
  unfold Exchange.listedUsers
  split <;> exact .nil

theorem sound_of_mem_trace_obliging {α : Type} (p : Program α) :
    ∀ x ∈ p.trace Holdings.obliging (), x.Sound := by
  rintro ⟨r, answer⟩ hx
  obtain ⟨_, hanswer⟩ := answered_of_mem_trace _ p () _ hx
  obtain rfl : answer = .ok ⟨204, .null⟩ := hanswer
  exact sound_of_noContent r

/-- No silent loss. Whatever a vault answers, and for every size of a page, the first request of a
full sync that fails or cannot do with its answer is the last one. The sync then returns the fault
of that request and no report; if the request was to enable a backend, the fault names the path of
the backend. Where all answers can be done with, and every listed user has a name that can stand in
a path, there is a report. A listing is read into memory, so a machine word counts it. -/
theorem no_silent_loss (c : Connector) (g : Gateway σ) (memory : Memory) (s : σ) :
    (∀ i x, (c.syncTrace g memory s)[i]? = some x → ¬x.Acceptable →
      (c.syncTrace g memory s).length = i + 1 ∧ ∃ e, x.reading = .error e ∧
        (x.request.method ≠ .post ∧ c.syncResult g memory s = .error e ∨
          ∃ b, c.backends[i]? = some b ∧ x.request = Backend.enabling b ∧
            c.syncResult g memory s = .error (.bootstrap b.path e))) ∧
    ((∀ x ∈ c.syncTrace g memory s, x.Acceptable) →
      (∀ x ∈ c.syncTrace g memory s, ∀ name ∈ x.listedUsers,
        name ≠ "" ∧ name ≠ "." ∧ name ≠ "..") →
      (∀ x ∈ c.syncTrace g memory s, x.listedUsers.length ≤ Text.Decimal.wordLimit) →
      ∃ report, c.syncResult g memory s = .ok report) := by
  refine ⟨fun i x hx hnot => fullSync_fails c g memory s hx hnot,
    fun hacceptable hnamed hcounted => fullSync_succeeds c g memory s fun x hx => ?_⟩
  exact ⟨hacceptable x hx, hnamed x hx, hcounted x hx⟩

/-- A sync that does not reach the policies, or that is denied them, stops there, after the seventh
request. One whose first backend meets an error of the vault stops at that, and one that is answered
everywhere with success gives a report. -/
theorem no_silent_loss_of_cutOff :
    let c : Connector := ⟨Backend.defaults, 10⟩
    let lost := Holdings.cutOff Endpoint.policies
    let denied := Holdings.obligingBut Endpoint.policies
      (.ok (Holdings.complaint 403 "permission denied"))
    let broken := Holdings.obligingBut "v1/sys/auth/approle"
      (.ok (Holdings.complaint 500 "internal error"))
    ((c.syncTrace lost .fresh ()).length = 7 ∧
      c.syncResult lost .fresh () = .error (.transport none "connection refused")) ∧
    ((c.syncTrace denied .fresh ()).length = 7 ∧
      c.syncResult denied .fresh () = .error (.transport (some 403) "permission denied")) ∧
    ((c.syncTrace broken .fresh ()).length = 1 ∧
      c.syncResult broken .fresh () =
        .error (.bootstrap "approle" (.transport (some 500) "internal error"))) ∧
    ∃ report, c.syncResult Holdings.obliging .fresh () = .ok report := by
  intro c lost denied broken
  -- The request that meets the answer is known by its place.
  have hfails (path : String) (answer : Answer) (i : Nat) (method : Method) {e : Fault}
      (hasked : ((c.syncTrace (Holdings.obligingBut path answer) .fresh ())[i]?.map fun x =>
        (x.request.method, x.request.path)) = some (method, path))
      (hnot : ∀ r, ¬Exchange.Acceptable ⟨r, answer⟩)
      (hfault : ∀ r, Exchange.reading ⟨r, answer⟩ = .error e) :
      (c.syncTrace (Holdings.obligingBut path answer) .fresh ()).length = i + 1 ∧
        (method ≠ .post ∧
            c.syncResult (Holdings.obligingBut path answer) .fresh () = .error e ∨
          ∃ b, c.backends[i]? = some b ∧ method = .post ∧
            c.syncResult (Holdings.obligingBut path answer) .fresh () =
              .error (.bootstrap b.path e)) := by
    obtain ⟨⟨request, told⟩, hx, hline⟩ := Option.map_eq_some_iff.mp hasked
    obtain ⟨rfl, rfl⟩ := Prod.mk.inj hline
    have htold := Holdings.answer_of_mem_trace_obligingBut (List.mem_of_getElem? hx)
    obtain rfl : told = answer := htold.trans (if_pos rfl)
    obtain ⟨hlength, e', hreading, hresult⟩ := (no_silent_loss c _ .fresh ()).1 i _ hx (hnot _)
    obtain rfl : e = e' := Except.error.inj ((hfault _).symm.trans hreading)
    refine ⟨hlength, hresult.imp_right ?_⟩
    rintro ⟨b, hb, rfl, hresult⟩
    exact ⟨b, hb, rfl, hresult⟩
  refine ⟨?_, ?_, ?_, ?_⟩
  · obtain ⟨hlength, ⟨-, hresult⟩ | ⟨b, -, hpost, -⟩⟩ := hfails Endpoint.policies
      (.error (.transport none "connection refused")) 6 .get (by decide +kernel)
      (fun r ⟨_, hr, _⟩ => nomatch hr) (fun r => rfl)
    · exact ⟨hlength, hresult⟩
    · cases hpost
  · obtain ⟨hlength, ⟨-, hresult⟩ | ⟨b, -, hpost, -⟩⟩ := hfails Endpoint.policies
      (.ok (Holdings.complaint 403 "permission denied")) 6 .get (by decide +kernel)
      (fun r => Exchange.not_acceptable_of_status (by decide) (by decide) (by decide))
      (fun r => Request.reads_of_not_isSuccess rfl)
    · exact ⟨hlength, hresult⟩
    · cases hpost
  · obtain ⟨hlength, ⟨hget, -⟩ | ⟨b, hb, -, hresult⟩⟩ := hfails "v1/sys/auth/approle"
      (.ok (Holdings.complaint 500 "internal error")) 0 .post (by decide +kernel)
      (fun r => Exchange.not_acceptable_of_status (by decide) (by decide) (by decide))
      (fun r => Request.reads_of_not_isSuccess rfl)
    · exact absurd rfl hget
    · cases hb
      exact ⟨hlength, hresult⟩
  · refine (no_silent_loss c Holdings.obliging .fresh ()).2 ?_ ?_ ?_
    · exact fun x hx => (sound_of_mem_trace_obliging _ x hx).acceptable
    · exact fun x hx => (sound_of_mem_trace_obliging _ x hx).orderly.named
    · exact fun x hx => (sound_of_mem_trace_obliging _ x hx).orderly.counted

end Connector

end VaultAccess
