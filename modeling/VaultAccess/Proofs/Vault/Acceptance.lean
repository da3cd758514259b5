import VaultAccess.Backend.Bootstrap
import VaultAccess.Proofs.Vault.Server

/-!
# Acceptable answers

Which answers a request can do with, and two properties of programs about them. A program that
heeds its answers stops at the first that it cannot do with, and what it gives is the fault of that
answer. A program may also rely on its answers: where they are as they should be, so is the result.
Both hold of every way in which the client reads.
-/
namespace VaultAccess.Vault

variable {α β σ : Type}

/-! ## Answers -/

/-- That a body has a shape. An empty object stands for one that is null. -/
def Decodes (decode : Json → Except Mismatch α) : Json → Prop
  | .null => ∃ a, decode (.obj []) = .ok a
  | body => ∃ a, decode body = .ok a

/-- That a body has the shape that a request asks for: that of a listing or, at the paths of users,
policies and mounts, that of what is there. Any value will do elsewhere, and nothing is asked of the
answer to a write. -/
def Request.Fits (r : Request) (body : Json) : Prop :=
  match r.method with
  | .list => Decodes Listing.ofJson body
  | .get =>
    if Endpoint.isUnderUsers r.path then Decodes UserAnswer.ofJson body
    else if r.path = Endpoint.policies then Decodes PolicyListing.ofJson body
    else if r.path = Endpoint.mounts ∨ r.path = Endpoint.authMethods then
      Decodes MountTable.ofJson body
    else True
  | .post => True

/-- That a request can do with its answer: a success whose body fits, a listing of nothing, or word
that the path at which a backend was to be enabled is taken. -/
def Exchange.Acceptable (x : Exchange) : Prop :=
  ∃ r, x.answer = .ok r ∧
    ((200 ≤ r.status ∧ r.status < 300) ∧ x.request.Fits r.body ∨
      x.request.method = .list ∧ r.status = 404 ∨
      x.request.method = .post ∧ r.status = 400 ∧
        ∃ m ∈ r.errorMessages, "path is already in use".toList <:+: m.toList)

/-- What a request reads from a response: a success whose body has the shape that is asked for at
the path. The body of a success to a write is not read. -/
def Request.reads (r : Request) (response : Response) : Except Fault Unit :=
  match r.method with
  | .list => (response.read Listing.ofJson).map fun _ => ()
  | .get =>
    if Endpoint.isUnderUsers r.path then (response.read UserAnswer.ofJson).map fun _ => ()
    else if r.path = Endpoint.policies then (response.read PolicyListing.ofJson).map fun _ => ()
    else if r.path = Endpoint.mounts ∨ r.path = Endpoint.authMethods then
      (response.read MountTable.ofJson).map fun _ => ()
    else (response.read Json.readAny).map fun _ => ()
  | .post => response.requireSuccess.map fun _ => ()

theorem Response.isSuccess_iff {r : Response} :
    r.isSuccess = true ↔ 200 ≤ r.status ∧ r.status < 300 := by
  simp [isSuccess]

/-- Nothing is read from a response that is no success. -/
theorem Request.reads_of_not_isSuccess {r : Request} {response : Response}
    (h : response.isSuccess = false) : r.reads response = .error response.fault := by
  have hrequire : response.requireSuccess = .error response.fault := by
    simp [Response.requireSuccess, h]
  have hread {α : Type} (decode : Json → Except Mismatch α) :
      (response.read decode).map (fun _ => ()) = .error response.fault := by
    simp only [Response.read, hrequire]
    rfl
  unfold Request.reads
  split
  · exact hread _
  · repeat' split
    all_goals exact hread _
  · rw [hrequire]
    rfl

/-- A success is read if its body has the right shape. -/
theorem Response.map_read_iff {decode : Json → Except Mismatch α} {r : Response}
    (h : r.isSuccess = true) :
    (r.read decode).map (fun _ => ()) = .ok () ↔ Decodes decode r.body := by
  obtain ⟨status, body⟩ := r
  simp only [read, requireSuccess, h, if_true]
  cases body <;> dsimp only [Decodes] <;> split
  all_goals next heq => simp [heq, Except.map]

/-- What a request reads without a fault is a success whose body fits. -/
theorem Request.reads_eq_ok_iff {r : Request} {response : Response} :
    r.reads response = .ok () ↔
      (200 ≤ response.status ∧ response.status < 300) ∧ r.Fits response.body := by
  rw [← Response.isSuccess_iff]
  cases hsuccess : response.isSuccess with
  | false =>
    rw [reads_of_not_isSuccess hsuccess]
    exact ⟨nofun, fun h => nomatch h.1⟩
  | true =>
    have hread {α : Type} (decode : Json → Except Mismatch α) :
        (response.read decode).map (fun _ => ()) = .ok () ↔ Decodes decode response.body :=
      Response.map_read_iff hsuccess
    have hany : Decodes Json.readAny response.body := by
      cases response.body <;> exact ⟨_, rfl⟩
    unfold reads Fits
    simp only [true_and]
    cases r.method with
    | list => exact hread _
    | get =>
      dsimp only
      repeat' split
      · exact hread _
      · exact hread _
      · exact hread _
      · exact (hread _).trans ⟨fun _ => trivial, fun _ => hany⟩
    | post => simp [Response.requireSuccess, hsuccess, Except.map]

namespace Exchange

/-- What a request got: nothing to tell, or a fault. -/
def reading (x : Exchange) : Except Fault Unit := x.answer.bind x.request.reads

/-- A request can do with what it reads without a fault, with a listing of nothing, and with word
that a path is taken. -/
theorem acceptable_iff {x : Exchange} :
    x.Acceptable ↔ ∃ r, x.answer = .ok r ∧
      (x.request.reads r = .ok () ∨ x.request.method = .list ∧ r.status = 404 ∨
        x.request.method = .post ∧ r.status = 400 ∧
          ∃ m ∈ r.errorMessages, Backend.alreadyInUse.toList <:+: m.toList) := by
  simp only [Acceptable, Request.reads_eq_ok_iff, Backend.alreadyInUse]

/-- That a result is the fault that a request got. -/
def Ends (x : Exchange) (result : Except Fault α) : Prop :=
  ∃ e, x.reading = .error e ∧ result = .error e

/-- An answer that is not acceptable is a fault. -/
theorem exists_fault {x : Exchange} (h : ¬x.Acceptable) : ∃ e, x.reading = .error e := by
  cases hreading : x.reading with
  | error e => exact ⟨e, rfl⟩
  | ok u =>
    obtain ⟨request, answer⟩ := x
    cases answer with
    | error e => cases hreading
    | ok r => exact absurd (acceptable_iff.mpr ⟨r, rfl, .inl hreading⟩) h

/-- Nothing can do with an answer that is no success, where its status does not say that there is
nothing or that the request cannot be met. -/
theorem not_acceptable_of_status {request : Request} {r : Response} (herror : 300 ≤ r.status)
    (h404 : r.status ≠ 404) (h400 : r.status ≠ 400) : ¬Acceptable ⟨request, .ok r⟩ := by
  rintro ⟨response, hresponse, hacceptable⟩
  cases hresponse
  rcases hacceptable with ⟨⟨-, hsuccess⟩, -⟩ | ⟨-, hnone⟩ | ⟨-, hinUse, -⟩
  · omega
  · exact h404 hnone
  · exact h400 hinUse

/-- The names that a listing of users told. -/
def listedUsers (x : Exchange) : List String :=
  if x.request.method = .list ∧ x.request.path = Endpoint.users then
    match x.answer.bind fun r => r.read Listing.ofJson with
    | .ok listing => listing.data.keys
    | .error _ => []
  else []

end Exchange

namespace Program

/-- The program stops at the first answer that is not acceptable, with a result as `E` says of that
exchange. If there is none the result satisfies `Q`. -/
def Heeds (E : Exchange → α → Prop) (Q : α → Prop) : Program α → Prop
  | done a => Q a
  | ask r next => ∀ answer,
    (Exchange.Acceptable ⟨r, answer⟩ → (next answer).Heeds E Q) ∧
      (¬Exchange.Acceptable ⟨r, answer⟩ →
        (next answer).Obeys (fun _ => False) (E ⟨r, answer⟩))
  | note _ next => next.Heeds E Q

/-- Where every exchange satisfies `P` the result satisfies `Q`. -/
def Relies (P : Exchange → Prop) (Q : α → Prop) : Program α → Prop
  | done a => Q a
  | ask r next => ∀ answer, P ⟨r, answer⟩ → (next answer).Relies P Q
  | note _ next => next.Relies P Q

section rules

variable {E : Exchange → α → Prop} {Q : α → Prop} {P : Exchange → Prop} {p : Program α}

theorem Heeds.bind {F : Exchange → β → Prop} {R : β → Prop} {f : α → Program β}
    (hp : p.Heeds E Q) (hE : ∀ x a, E x a → (f a).Obeys (fun _ => False) (F x))
    (hf : ∀ a, Q a → (f a).Heeds F R) : (p.bind f).Heeds F R := by
  induction p with
  | done a => exact hf a hp
  | ask r next ih =>
    intro answer
    obtain ⟨hgo, hstop⟩ := hp answer
    exact ⟨fun h => ih answer (hgo h), fun h => (hstop h).bind (hE _)⟩
  | note line next ih => exact ih hp

theorem Relies.bind {R : β → Prop} {f : α → Program β} (hp : p.Relies P Q)
    (hf : ∀ a, Q a → (f a).Relies P R) : (p.bind f).Relies P R := by
  induction p with
  | done a => exact hf a hp
  | ask r next ih => exact fun answer h => ih answer (hp answer h)
  | note line next ih => exact ih hp

theorem Obeys.trace_eq_nil (hp : p.Obeys (fun _ => False) Q) (g : Gateway σ) (s : σ) :
    p.trace g s = [] := List.eq_nil_iff_forall_not_mem.mpr (hp.trace g s)

/-- An answer that is not acceptable is the last one of a run that heeds it. -/
theorem Heeds.run (hp : p.Heeds E Q) {g : Gateway σ} {s : σ} {i : Nat} {x : Exchange}
    (hx : (p.trace g s)[i]? = some x) (hnot : ¬x.Acceptable) :
    (p.trace g s).length = i + 1 ∧ E x (p.run g s).1 := by
  induction p generalizing s i with
  | done a => cases hx
  | note line next ih => exact ih hp hx
  | ask r next ih =>
    obtain ⟨hgo, hstop⟩ := hp (g.answer r s).1
    by_cases hfirst : Exchange.Acceptable ⟨r, (g.answer r s).1⟩
    · cases i with
      | zero =>
        cases hx
        exact absurd hfirst hnot
      | succ i =>
        obtain ⟨hlength, hE⟩ := ih _ (hgo hfirst) hx
        exact ⟨by rw [trace_ask, List.length_cons, hlength], hE⟩
    · have hend := (hstop hfirst).trace_eq_nil g (g.answer r s).2
      rw [trace_ask, hend] at hx ⊢
      cases i with
      | zero =>
        cases hx
        exact ⟨rfl, (hstop hfirst).run g (g.answer r s).2⟩
      | succ i => cases hx

theorem Relies.run (hp : p.Relies P Q) {g : Gateway σ} {s : σ} (h : ∀ x ∈ p.trace g s, P x) :
    Q (p.run g s).1 := by
  induction p generalizing s with
  | done a => exact hp
  | note line next ih => exact ih hp h
  | ask r next ih =>
    obtain ⟨hfirst, hrest⟩ := List.forall_mem_cons.mp h
    exact ih _ (hp _ hfirst) hrest

end rules

end Program

namespace Action

/-- The action stops at the first answer that is not acceptable, with the fault of that answer. -/
def Heeds (a : Action α) : Prop := a.run.Heeds Exchange.Ends fun _ => True

/-- Where every exchange satisfies `P` the action succeeds, with a value that satisfies `Q`. -/
def Relies (P : Exchange → Prop) (Q : α → Prop) (a : Action α) : Prop :=
  a.run.Relies P fun r => ∃ v, r = .ok v ∧ Q v

section rules

variable {P : Exchange → Prop} {Q : α → Prop} {R : β → Prop} {a : Action α} {f : α → Action β}

theorem run_request_bind (r : Request) (f : Response → Action α) :
    (request r >>= f).run = .ask r (andThen f) := by
  simp only [run_bind, run_request, Program.ask_bind, Program.bind_done]

theorem Heeds.pure (v : α) : Heeds (Pure.pure v) := trivial

theorem Heeds.throw (e : Fault) : Heeds (MonadExcept.throw e : Action α) := trivial

theorem Heeds.note (level : Level) (text : String) : Heeds (note level text) := trivial

theorem Heeds.ofExcept (r : Except Fault α) : Heeds (ofExcept r) := trivial

theorem Heeds.bind (ha : a.Heeds) (hf : ∀ v, (f v).Heeds) : (a >>= f).Heeds := by
  rw [Heeds, run_bind]
  refine Program.Heeds.bind ha ?_ fun r _ => ?_
  · rintro x r ⟨e, he, rfl⟩
    exact ⟨e, he, rfl⟩
  · cases r with
    | ok v => exact hf v
    | error e => trivial

theorem Heeds.ofExcept_bind {r : Except Fault α} (hf : ∀ v, r = .ok v → (f v).Heeds) :
    (Action.ofExcept r >>= f).Heeds := by
  rw [Heeds, run_bind, run_ofExcept, Program.bind_done]
  cases r with
  | error e => trivial
  | ok v => exact hf v rfl

/-- A request is heeded if nothing else is asked after an answer that is not acceptable. -/
theorem Heeds.request_bind {r : Request} {f : Response → Action α}
    (hf : ∀ response, (f response).Heeds)
    (hstop : ∀ response e, ¬Exchange.Acceptable ⟨r, .ok response⟩ → r.reads response = .error e →
      (f response).run.Obeys (fun _ => False) (· = .error e)) : (request r >>= f).Heeds := by
  rw [Heeds, run_request_bind]
  intro answer
  cases answer with
  | error e =>
    refine ⟨fun _ => trivial, fun _ => ⟨e, rfl, rfl⟩⟩
  | ok response =>
    refine ⟨fun _ => hf response, fun hnot => ?_⟩
    obtain ⟨e, he⟩ := Exchange.exists_fault hnot
    exact (hstop response e hnot he).imp (fun _ h => h) fun result hresult => ⟨e, he, hresult⟩

theorem Relies.pure {v : α} (h : Q v) : Relies P Q (Pure.pure v) := ⟨v, rfl, h⟩

theorem Relies.note (level : Level) (text : String) :
    Relies P (fun _ => True) (note level text) := ⟨(), rfl, trivial⟩

theorem Relies.ofExcept {r : Except Fault α} {v : α} (h : r = .ok v) (hv : Q v) :
    Relies P Q (ofExcept r) := ⟨v, h, hv⟩

theorem Relies.ofExcept_bind {r : Except Fault α} {v : α} (h : r = .ok v)
    (hf : (f v).Relies P R) : (Action.ofExcept r >>= f).Relies P R := by
  rw [Relies, run_bind, run_ofExcept, Program.bind_done, h]
  exact hf

theorem Relies.bind (ha : a.Relies P Q) (hf : ∀ v, Q v → (f v).Relies P R) :
    (a >>= f).Relies P R := by
  rw [Relies, run_bind]
  refine Program.Relies.bind ha ?_
  rintro r ⟨v, rfl, hv⟩
  exact hf v hv

theorem Relies.imp {S : α → Prop} (ha : a.Relies P Q) (hQ : ∀ v, Q v → S v) : a.Relies P S := by
  have hbind := Relies.bind ha (f := Pure.pure) (R := S) fun v hv => Relies.pure (hQ v hv)
  rwa [bind_pure] at hbind

/-- What follows a request may rely on its answer. -/
theorem Relies.request_bind {r : Request} {f : Response → Action α}
    (hP : ∀ x, P x → x.Acceptable)
    (hf : ∀ response, P ⟨r, .ok response⟩ → (f response).Relies P Q) :
    (request r >>= f).Relies P Q := by
  rw [Relies, run_request_bind]
  intro answer hanswer
  cases answer with
  | error e =>
    obtain ⟨response, hresponse, -⟩ := hP _ hanswer
    cases hresponse
  | ok response => exact hf response hanswer

end rules

end Action

/-! ## Reading keys and values -/

/-- Names that can stand in paths, no more of them than a machine word counts. -/
structure Orderly (names : List String) : Prop where
  named : ∀ name ∈ names, Holdings.IsSegment name
  counted : names.length ≤ Text.Decimal.wordLimit

theorem Orderly.nil : Orderly [] := ⟨List.forall_mem_nil _, Nat.zero_le _⟩

/-- That an answer is acceptable and the users it lists, if any, are orderly. -/
structure Exchange.Sound (x : Exchange) : Prop where
  acceptable : x.Acceptable
  orderly : Orderly x.listedUsers

theorem exists_ok_of_map {r : Except Fault α} (h : r.map (fun _ => ()) = .ok ()) :
    ∃ a, r = .ok a := by
  cases r with
  | error e => cases h
  | ok a => exact ⟨a, rfl⟩

theorem error_of_map {r : Except Fault α} {e : Fault} (h : r.map (fun _ => ()) = .error e) :
    r = .error e := by
  cases r with
  | error e => exact congrArg _ (Except.error.inj h)
  | ok a => cases h

namespace Exchange

theorem Acceptable.of_list {path : String} {r : Response} (h : Acceptable ⟨.list path, .ok r⟩) :
    r.status = 404 ∨ ∃ listing, r.read Listing.ofJson = .ok listing := by
  obtain ⟨r, hr, hreads | ⟨-, hstatus⟩ | ⟨hpost, -⟩⟩ := acceptable_iff.mp h
  · cases hr
    exact .inr (exists_ok_of_map hreads)
  · cases hr
    exact .inl hstatus
  · cases hpost

theorem Acceptable.of_get {path : String} {r : Response} (h : Acceptable ⟨.get path, .ok r⟩) :
    (Request.get path).reads r = .ok () := by
  obtain ⟨r, hr, hreads | ⟨hlist, -⟩ | ⟨hpost, -⟩⟩ := acceptable_iff.mp h
  · cases hr
    exact hreads
  · cases hlist
  · cases hpost

/-- What users a listing of them told. -/
theorem listedUsers_list {r : Response} {listing : Listing}
    (h : r.read Listing.ofJson = .ok listing) :
    listedUsers ⟨.list Endpoint.users, .ok r⟩ = listing.data.keys := by
  have hread : (Except.ok r : Answer).bind (fun r => r.read Listing.ofJson) = .ok listing := h
  rw [listedUsers, if_pos ⟨rfl, rfl⟩]
  simp only [hread]

end Exchange

/-- That a value at a path is read as it is decoded. -/
def Endpoint.Holds {α : Type} (path : String) (decode : Json → Except Mismatch α) : Prop :=
  ∀ r, (Request.get path).reads r = (r.read decode).map fun _ => ()

namespace Endpoint

theorem holds_user (name : String) : Holds (userPath name) UserAnswer.ofJson := by
  have hunder := isUnderUsers_userPath name ""
  rw [String.append_empty] at hunder
  intro r
  simp only [Request.reads]
  exact if_pos hunder

theorem holds_policies : Holds policies PolicyListing.ofJson := fun _ => rfl

theorem holds_mounts : Holds mounts MountTable.ofJson := fun _ => rfl

theorem holds_authMethods : Holds authMethods MountTable.ofJson := fun _ => rfl

end Endpoint

open Exchange

theorem listKeys_heeds (path : String) : (listKeys path).Heeds := by
  refine .request_bind (fun response => ?_) fun response e hnot hreads => ?_
  · split
    · exact .bind (.note _ _) fun _ => .pure _
    · exact .ofExcept _
  · have hstatus : response.status ≠ 404 := fun h => hnot ⟨response, rfl, .inr (.inl ⟨rfl, h⟩)⟩
    rw [if_neg hstatus]
    exact error_of_map hreads

theorem getValue_heeds {decode : Json → Except Mismatch α} {path : String}
    (hpath : Endpoint.Holds path decode) : (getValue decode path).Heeds := by
  refine .request_bind (fun response => .ofExcept _) fun response e hnot he => ?_
  rw [hpath] at he
  exact error_of_map he

theorem listKeys_relies (path : String) :
    (listKeys path).Relies Sound fun listing =>
      path = Endpoint.users → Orderly listing.data.keys := by
  refine .request_bind (fun x hx => hx.acceptable) fun response hsound => ?_
  split
  · exact .bind (.note _ _) fun _ _ => .pure fun _ => .nil
  · rename_i hstatus
    obtain ⟨listing, hread⟩ := hsound.acceptable.of_list.resolve_left hstatus
    refine .ofExcept hread ?_
    rintro rfl
    exact listedUsers_list hread ▸ hsound.orderly

theorem getValue_relies {decode : Json → Except Mismatch α} {path : String}
    (hpath : Endpoint.Holds path decode) :
    (getValue decode path).Relies Sound fun _ => True := by
  refine .request_bind (fun x hx => hx.acceptable) fun response hsound => ?_
  have hreads := hsound.acceptable.of_get
  rw [hpath] at hreads
  obtain ⟨a, ha⟩ := exists_ok_of_map hreads
  exact .ofExcept ha trivial

/-! ## The operations of the client -/

theorem listUsers_heeds : listUsers.Heeds := .bind (listKeys_heeds _) fun _ => .pure _

theorem listUsers_relies : listUsers.Relies Sound Orderly :=
  .bind (listKeys_relies _) fun _ hlisting => .pure (hlisting rfl)

theorem getUser_heeds (name : String) : (getUser name).Heeds := by
  refine .ofExcept_bind fun path hpath => ?_
  rw [Endpoint.user_eq_userPath hpath]
  exact .bind (getValue_heeds (Endpoint.holds_user name)) fun _ => .pure _

theorem getUser_relies {name : String} (hname : Holdings.IsSegment name) :
    (getUser name).Relies Sound fun _ => True :=
  .ofExcept_bind hname.user_ok <|
    .bind (getValue_relies (Endpoint.holds_user name)) fun _ _ => .pure trivial

theorem userPolicies_heeds (name : String) : (userPolicies name).Heeds :=
  .bind (getUser_heeds name) fun _ => .pure _

theorem userPolicies_relies {name : String} (hname : Holdings.IsSegment name) :
    (userPolicies name).Relies Sound fun _ => True :=
  .bind (getUser_relies hname) fun _ _ => .pure trivial

theorem listRoles_heeds (source : RoleSource) : (listRoles source).Heeds :=
  .bind (listKeys_heeds _) fun _ => .pure _

theorem listRoles_relies (source : RoleSource) : (listRoles source).Relies Sound fun _ => True :=
  .bind (listKeys_relies _) fun _ _ => .pure trivial

theorem listPolicies_heeds : listPolicies.Heeds :=
  .bind (getValue_heeds Endpoint.holds_policies) fun _ => .pure _

theorem listPolicies_relies : listPolicies.Relies Sound fun _ => True :=
  .bind (getValue_relies Endpoint.holds_policies) fun _ _ => .pure trivial

theorem listSecretMounts_heeds : listSecretMounts.Heeds :=
  .bind (getValue_heeds Endpoint.holds_mounts) fun _ => .pure _

theorem listSecretMounts_relies : listSecretMounts.Relies Sound fun _ => True :=
  .bind (getValue_relies Endpoint.holds_mounts) fun _ _ => .pure trivial

theorem listAuthMethods_heeds : listAuthMethods.Heeds :=
  .bind (getValue_heeds Endpoint.holds_authMethods) fun _ => .pure _

theorem listAuthMethods_relies : listAuthMethods.Relies Sound fun _ => True :=
  .bind (getValue_relies Endpoint.holds_authMethods) fun _ _ => .pure trivial

theorem listGroups_heeds : listGroups.Heeds := .bind (listKeys_heeds _) fun _ => .pure _

theorem listGroups_relies : listGroups.Relies Sound fun _ => True :=
  .bind (listKeys_relies _) fun _ _ => .pure trivial

theorem listEntities_heeds : listEntities.Heeds := .bind (listKeys_heeds _) fun _ => .pure _

theorem listEntities_relies : listEntities.Relies Sound fun _ => True :=
  .bind (listKeys_relies _) fun _ _ => .pure trivial

end VaultAccess.Vault
