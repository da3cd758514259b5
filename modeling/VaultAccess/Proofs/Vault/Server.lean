import VaultAccess.Proofs.Connector.Change
import VaultAccess.Proofs.Lookup
import VaultAccess.Proofs.Text.Percent
import VaultAccess.Proofs.Vault.Bodies

/-!
# A vault

What a vault holds and how it answers: listings, values and users at their paths, and a
replacement of a user's policies. Whatever else it is asked goes to a gateway with a state of its
own, such as the enabling of backends.
-/
namespace VaultAccess.Vault

open Program

/-- What a vault holds. -/
structure Holdings where
  users : List (String × UserAnswer)
  approleRoles : Listing
  tokenRoles : Listing
  policies : PolicyListing
  mounts : MountTable
  authMethods : MountTable
  groups : Listing
  entities : Listing

namespace Endpoint

/-- The path at which a vault keeps a user. -/
def userPath (name : String) : String := users ++ "/" ++ Text.Percent.encode name

/-- Whether a path lies below the users. -/
def isUnderUsers (path : String) : Bool := (users ++ "/").toList.isPrefixOf path.toList

theorem userPath_injective {name other : String} (h : userPath name = userPath other) :
    name = other := by
  unfold userPath at h
  apply Text.Percent.encode_injective
  have hlist := congrArg String.toList h
  simp only [String.toList_append, List.append_cancel_left_eq] at hlist
  exact String.toList_inj.mp hlist

theorem user_eq_userPath {name path : String} (h : user name "" = .ok path) :
    path = userPath name := by
  rw [user_ok h, userPath, String.append_empty]

theorem userPath_suffix_injective {name other suffix : String}
    (h : userPath name ++ suffix = userPath other ++ suffix) : name = other := by
  apply userPath_injective
  have hlist := congrArg String.toList h
  simp only [String.toList_append, List.append_cancel_right_eq] at hlist
  exact String.toList_inj.mp hlist

theorem isUnderUsers_userPath (name suffix : String) :
    isUnderUsers (userPath name ++ suffix) = true := by
  simp [isUnderUsers, userPath, List.isPrefixOf_iff_prefix]

/-- Backends are not enabled below the users. -/
theorem isUnderUsers_backend (b : Backend) : isUnderUsers (backend b) = false := by
  cases hkind : b.kind <;>
    simp [isUnderUsers, backend, hkind, authMethods, mounts, users, List.isPrefixOf]

end Endpoint

/-- The user's answer with other policies. -/
def UserAnswer.withPolicies (a : UserAnswer) (policies : List String) : UserAnswer :=
  { a with data := { a.data with tokenPolicies := some policies } }

@[simp] theorem UserAnswer.policyList_withPolicies (a : UserAnswer) (policies : List String) :
    (a.withPolicies policies).data.policyList = policies := rfl

namespace Holdings

/-- The vault's answer where there is nothing. -/
def nothing : Response := ⟨404, .obj [("errors", .arr [])]⟩

/-- The vault's answer where there is an error to tell of. -/
def complaint (status : Nat) (message : String) : Response :=
  ⟨status, .obj [("errors", .arr [.str message])]⟩

/-- The names of the users as a listing. -/
def userListing (h : Holdings) : Listing := ⟨⟨h.users.map (·.1), []⟩, none⟩

/-- What is listed at a path. -/
def listing? (h : Holdings) (path : String) : Option Listing :=
  [(Endpoint.users, h.userListing), (Endpoint.approleRoles, h.approleRoles),
    (Endpoint.tokenRoles, h.tokenRoles), (Endpoint.groups, h.groups),
    (Endpoint.entities, h.entities)].lookup path

/-- The value at a path. -/
def value? (h : Holdings) (path : String) : Option Json :=
  [(Endpoint.policies, h.policies.toJson), (Endpoint.mounts, h.mounts.toJson),
    (Endpoint.authMethods, h.authMethods.toJson)].lookup path

/-- The answer to what reads listings and values; nothing to list is answered like no listing. -/
def told? (h : Holdings) (r : Request) : Option Response :=
  match r.method with
  | .list => (h.listing? r.path).map fun listing =>
    if listing.data.keys = [] then nothing else ⟨200, listing.toJson⟩
  | .get => (h.value? r.path).map fun value => ⟨200, value⟩
  | .post => none

/-- The user's answer. -/
def user? (h : Holdings) (name : String) : Option UserAnswer := h.users.lookup name

/-- The policies of a user; none for a user that does not exist. -/
def policiesOf (h : Holdings) (name : String) : List String :=
  ((h.user? name).map fun a => a.data.policyList).getD []

/-- The holdings with other policies for a user. -/
def replace (h : Holdings) (name : String) (policies : List String) : Holdings :=
  { h with users := h.users.map fun u =>
      (u.1, if u.1 = name then u.2.withPolicies policies else u.2) }

/-- The policies that a body puts in place of a user's. -/
def replacement? (body : Option Json) : Option (List String) :=
  (body.bind (Json.get? "token_policies")).bind fun v => (Json.dialect.textList v).toOption

/-- Answer a request below the users, and what is held afterwards. -/
def answerUser (h : Holdings) (r : Request) : Answer × Holdings :=
  match r.method with
  | .list => (.ok nothing, h)
  | .get =>
    match h.users.find? fun u => Endpoint.userPath u.1 = r.path with
    | some u => (.ok ⟨200, u.2.toJson⟩, h)
    | none => (.ok nothing, h)
  | .post =>
    match h.users.find? (fun u => Endpoint.userPath u.1 ++ "/policies" = r.path),
        replacement? r.body with
    | some u, some policies => (.ok ⟨204, .null⟩, h.replace u.1 policies)
    | _, _ => (.ok nothing, h)

/-- The gateway to a vault, over what it holds and the state of what answers all other
requests. -/
def gateway {τ : Type} (rest : Gateway τ) : Gateway (Holdings × τ) where
  answer r s :=
    if Endpoint.isUnderUsers r.path then
      let (answer, h) := s.1.answerUser r
      (answer, (h, s.2))
    else
      match s.1.told? r with
      | some response => (.ok response, s)
      | none =>
        let (answer, t) := rest.answer r s.2
        (answer, (s.1, t))
  log _ s := s

/-- A gateway that answers everything with success. -/
def obliging : Gateway Unit where
  answer _ t := (.ok ⟨204, .null⟩, t)
  log _ t := t

/-- A gateway that answers with success everywhere but at one path. -/
def obligingBut (path : String) (answer : Answer) : Gateway Unit where
  answer r t := (if r.path = path then answer else .ok ⟨204, .null⟩, t)
  log _ t := t

/-- A gateway that answers with success everywhere but at one path, which it does not reach. -/
def cutOff (path : String) : Gateway Unit :=
  obligingBut path (.error (.transport none "connection refused"))

theorem answer_of_mem_trace_obligingBut {α : Type} {path : String} {answer : Answer}
    {p : Program α} {x : Exchange} (hx : x ∈ p.trace (obligingBut path answer) ()) :
    x.answer = if x.request.path = path then answer else .ok ⟨204, .null⟩ := by
  obtain ⟨_, hanswer⟩ := answered_of_mem_trace _ _ _ _ hx
  exact hanswer

/-- A small vault. -/
def small : Holdings where
  users := [("ada", ⟨⟨some ["dev", "ops"], none, none, none⟩, none⟩),
    ("bob", ⟨⟨none, some ["dev"], none, some 60⟩, some "userpass"⟩)]
  approleRoles := ⟨⟨["ci"], []⟩, none⟩
  tokenRoles := .empty
  policies := ⟨["dev", "ops"], [], none, none⟩
  mounts := [("secret/", ⟨some "kv", none, none, none, none⟩)]
  authMethods := [("userpass/", ⟨some "userpass", none, none, none, none⟩)]
  groups := .empty
  entities := .empty

/-! ## Users -/

theorem find?_userPath (h : Holdings) (name suffix : String) :
    h.users.find? (fun u => Endpoint.userPath u.1 ++ suffix = Endpoint.userPath name ++ suffix) =
      (h.user? name).map fun a => (name, a) := by
  unfold user?
  induction h.users with
  | nil => rfl
  | cons u rest ih =>
    obtain ⟨other, a⟩ := u
    by_cases heq : other = name
    · subst heq
      simp
    · have hpath : Endpoint.userPath other ++ suffix ≠ Endpoint.userPath name ++ suffix :=
        fun h => heq (Endpoint.userPath_suffix_injective h)
      rw [List.find?_cons_of_neg (by simpa using hpath), ih, lookup_cons_of_ne (Ne.symm heq)]

theorem user?_replace (h : Holdings) (name other : String) (policies : List String) :
    (h.replace name policies).user? other =
      (h.user? other).map fun a => if other = name then a.withPolicies policies else a :=
  lookup_map_value (fun key a => if key = name then UserAnswer.withPolicies a policies else a)
    other h.users

theorem user?_replace_self (h : Holdings) (name : String) (policies : List String) :
    (h.replace name policies).user? name =
      (h.user? name).map fun a => a.withPolicies policies := by
  simp [user?_replace]

theorem user?_replace_of_ne (h : Holdings) {name other : String} (hne : other ≠ name)
    (policies : List String) : (h.replace name policies).user? other = h.user? other := by
  simp [user?_replace, hne]

/-- The replacement of a body that replaces policies. -/
@[simp] theorem replacement?_policiesBody (policies : List String) :
    replacement? (some (policiesBody policies)) = some policies := by
  simp [replacement?, policiesBody, Json.get?, Except.toOption]

section gateway

variable {τ : Type} (rest : Gateway τ) (h : Holdings) (t : τ)

@[simp] theorem gateway_log (line : LogLine) (s : Holdings × τ) :
    (gateway rest).log line s = s := rfl

/-- A user is read as the vault has it. -/
theorem gateway_get_user (name : String) :
    (gateway rest).answer (.get (Endpoint.userPath name)) (h, t) =
      (.ok (match h.user? name with
        | some a => ⟨200, a.toJson⟩
        | none => nothing), (h, t)) := by
  have hunder := Endpoint.isUnderUsers_userPath name ""
  have hfind := find?_userPath h name ""
  simp only [String.append_empty] at hunder hfind
  simp only [gateway, Request.get, hunder, if_true, answerUser, hfind]
  cases h.user? name <;> rfl

/-- A replacement at the path of a user is made, if there is such a user. -/
theorem gateway_post_user (name : String) (policies : List String) :
    (gateway rest).answer (.post (Endpoint.userPath name ++ "/policies") (policiesBody policies))
        (h, t) =
      match h.user? name with
      | some _ => (.ok ⟨204, .null⟩, (h.replace name policies, t))
      | none => (.ok nothing, (h, t)) := by
  simp only [gateway, Request.post, Endpoint.isUnderUsers_userPath, if_true, answerUser,
    find?_userPath, replacement?_policiesBody]
  cases h.user? name <;> rfl

end gateway

theorem policiesOf_of_some {h : Holdings} {user : String} {a : UserAnswer}
    (ha : h.user? user = some a) : h.policiesOf user = a.data.policyList := by
  simp [policiesOf, ha]

theorem policiesOf_replace {h : Holdings} {user : String} (hsome : (h.user? user).isSome)
    (policies : List String) : (h.replace user policies).policiesOf user = policies := by
  obtain ⟨a, ha⟩ := Option.isSome_iff_exists.mp hsome
  simp [policiesOf, user?_replace_self, ha]

/-- A name that the connector takes for a path. -/
def IsSegment (name : String) : Prop := name ≠ "" ∧ name ≠ "." ∧ name ≠ ".."

/-- Every user has a name that the connector takes. -/
def WellNamed (h : Holdings) : Prop := ∀ u ∈ h.users, IsSegment u.1

theorem IsSegment.user_ok {name : String} (h : IsSegment name) :
    Endpoint.user name "" = .ok (Endpoint.userPath name) := by
  have hnot : ¬(name = "" ∨ name = "." ∨ name = "..") := by
    rintro (h1 | h2 | h3)
    · exact h.1 h1
    · exact h.2.1 h2
    · exact h.2.2 h3
  rw [Endpoint.user, if_neg hnot, String.append_empty]
  rfl

theorem WellNamed.user_ok {h : Holdings} (hnames : h.WellNamed) {user : String} {a : UserAnswer}
    (ha : h.user? user = some a) : Endpoint.user user "" = .ok (Endpoint.userPath user) := by
  obtain ⟨before, after, hsplit, -⟩ := List.lookup_eq_some_iff.mp ha
  have hmem : (user, a) ∈ h.users := by
    rw [hsplit]
    exact List.mem_append_right before List.mem_cons_self
  exact (hnames _ hmem).user_ok

theorem WellNamed.replace {h : Holdings} (hnames : h.WellNamed) (user : String)
    (policies : List String) : (h.replace user policies).WellNamed := by
  intro u hu
  obtain ⟨u', hu', rfl⟩ := List.mem_map.mp hu
  exact hnames u' hu'

theorem small_wellNamed : small.WellNamed := by
  simp [WellNamed, small, IsSegment]

end Holdings

@[simp] theorem policiesIn_toJson (a : UserAnswer) :
    policiesIn (.ok ⟨200, a.toJson⟩) = .ok a.data.policyList := by
  have hread : Response.read UserAnswer.ofJson ⟨200, a.toJson⟩ = .ok a :=
    Response.read_of_ok (UserAnswer.ofJson_toJson a)
  simp [policiesIn, Except.bind, Except.map, hread]

end VaultAccess.Vault
