import VaultAccess.Proofs.Connector.Episodes
import VaultAccess.Proofs.Paging.Walk

/-!
# Names in paths

Names of users, from callers or from a listing, reach a vault as single segments below its users.
Every other request has a fixed path or that of a backend.
-/
namespace VaultAccess

open Vault Program Paging

namespace Connector

/-- That a name was told by a listing of users. -/
def Listed (xs : List Exchange) (name : String) : Prop :=
  ∃ x ∈ xs, x.request = .list Endpoint.users ∧
    ∃ names, usersIn x.answer = .ok names ∧ name ∈ names

/-- That a request has a fixed path, or asks for a user of a certain sort by a name that is a
segment. -/
def Placed (P : String → Prop) (x : Exchange) : Prop :=
  x.request.path ∈ Endpoint.fixed ∨
    ∃ name suffix, P name ∧ Holdings.IsSegment name ∧
      Endpoint.NamesUser name suffix x.request.path

variable {P Q : String → Prop} {xs ys : List Exchange} {x : Exchange}

theorem Placed.imp (h : Placed P x) (hPQ : ∀ name, P name → Q name) : Placed Q x := by
  rcases h with hfixed | ⟨name, suffix, hP, hname, hpath⟩
  · exact .inl hfixed
  · exact .inr ⟨name, suffix, hPQ name hP, hname, hpath⟩

theorem Placed.elsewhere (h : IsElsewhere x.request) : Placed P x := .inl h.1

theorem Placed.user {name suffix : String} (hP : P name) (hname : Holdings.IsSegment name)
    (hsuffix : suffix ∈ Endpoint.suffixes)
    (hpath : x.request.path = Endpoint.userPath name ++ suffix) : Placed P x :=
  .inr ⟨name, suffix, hP, hname, hpath ▸ Endpoint.namesUser_userPath hname hsuffix⟩

theorem Listed.mono {name : String} (h : Listed xs name) (hsub : ∀ x ∈ xs, x ∈ ys) :
    Listed ys name := by
  obtain ⟨x, hx, hrest⟩ := h
  exact ⟨x, hsub x hx, hrest⟩

/-- Requests that are placed by the names of their own listings stay so among more of them. -/
theorem placed_append (hxs : ∀ x ∈ xs, Placed (Listed xs) x) (hys : ∀ y ∈ ys, Placed (Listed ys) y) :
    ∀ x ∈ xs ++ ys, Placed (Listed (xs ++ ys)) x := by
  intro x hx
  rcases List.mem_append.mp hx with hx | hx
  · exact (hxs x hx).imp fun _ h => h.mono fun _ => List.mem_append_left ys
  · exact (hys x hx).imp fun _ h => h.mono fun _ => List.mem_append_right xs

/-! ## Requests about users -/

theorem placed_visit {name : String} {r : Except Fault Unit} (h : Visit name xs r) (hP : P name) :
    ∀ x ∈ xs, Placed P x := by
  intro x hx
  cases h with
  | refused _ => cases hx
  | asked hname answer =>
    rw [List.mem_singleton.mp hx]
    exact .user hP hname (by decide) (String.append_empty).symm

theorem placed_visits {names : List String} {r : Except Fault Unit} (h : Visits names xs r)
    (hP : ∀ name ∈ names, P name) : ∀ x ∈ xs, Placed P x := by
  induction h with
  | nil => exact fun x hx => (List.not_mem_nil hx).elim
  | failed h => exact placed_visit h (hP _ List.mem_cons_self)
  | next h _ ih =>
    intro x hx
    rcases List.mem_append.mp hx with hx | hx
    · exact placed_visit h (hP _ List.mem_cons_self) x hx
    · exact ih (fun name hname => hP name (List.mem_cons_of_mem _ hname)) x hx

/-- A page visits users that its own listing told. -/
theorem placed_userPage {size : Nat} {cursor : String} {r : Except Fault String}
    (h : UserPage size cursor xs r) : ∀ x ∈ xs, Placed (Listed xs) x := by
  have husers {P : String → Prop} {answer : Answer} :
      Placed P ⟨.list Endpoint.users, answer⟩ := .inl List.mem_cons_self
  intro x hx
  cases h with
  | unread _ => cases hx
  | unlisted _ _ =>
    rw [List.mem_singleton.mp hx]
    exact husers
  | @visited c answer batch zs r _ hwindow hvisits =>
    rcases List.mem_cons.mp hx with rfl | hx
    · exact husers
    · refine placed_visits hvisits (fun name hname => ?_) x hx
      cases hnames : usersIn answer with
      | error e =>
        rw [windowIn, hnames] at hwindow
        cases hwindow
      | ok names =>
        rw [windowIn, hnames] at hwindow
        exact ⟨_, List.mem_cons_self, rfl, names, hnames, mem_of_mem_window hwindow name hname⟩

theorem placed_drained {size fuel : Nat} {cursor : String} {r : Except Fault Unit}
    (h : Drained (UserPage size) fuel cursor xs r) : ∀ x ∈ xs, Placed (Listed xs) x := by
  induction h with
  | exhausted => exact fun x hx => (List.not_mem_nil hx).elim
  | failed h => exact placed_userPage h
  | last h => exact placed_userPage h
  | stuck h _ => exact placed_userPage h
  | next h _ _ _ ih => exact placed_append (placed_userPage h) ih

theorem placed_sweep {size : Nat} {r : Except Fault Unit} (h : Sweep size xs r) :
    ∀ x ∈ xs, Placed (Listed xs) x := by
  induction h with
  | elsewhere h => exact fun x hx => .elsewhere (h x hx)
  | users h => exact placed_drained h
  | andThen _ _ ih ihrest => exact placed_append ih ihrest

theorem placed_alters {change : Change} {user policy : String} {r : Except Fault Unit}
    (h : Membership.Alters change user policy xs r) : ∀ x ∈ xs, Placed (· = user) x := by
  have hget (hname : Holdings.IsSegment user) (answer : Answer) :
      Placed (· = user) ⟨.get (Endpoint.userPath user), answer⟩ :=
    .user rfl hname (by decide) (String.append_empty).symm
  intro x hx
  cases h with
  | refused _ => cases hx
  | unrevised hname _ =>
    rw [List.mem_singleton.mp hx]
    exact hget hname _
  | replaced hname _ answer =>
    rcases List.mem_cons.mp hx with rfl | hx
    · exact hget hname _
    · rw [List.mem_singleton.mp hx]
      exact .user rfl hname (by decide) rfl

/-! ## Requests of operations -/

/-- The names that an episode has to do with: that of the user whose policies it changes, and those
that it was told. -/
def Episode.Names (e : Episode) (name : String) : Prop :=
  (∃ change policy, e.op.change? = some (change, name, policy)) ∨ Listed e.exchanges name

theorem placed_own {c : Connector} {op : Operation} {r : Except Fault Unit} (h : c.Own op xs r) :
    ∀ x ∈ xs, Placed (fun name => (∃ change policy, op.change? = some (change, name, policy)) ∨
      Listed xs name) x := by
  unfold Own at h
  split at h
  · obtain ⟨next, hpage, -⟩ := h
    exact fun x hx => (placed_userPage hpage x hx).imp fun _ => .inr
  · obtain ⟨next, hpage, -⟩ := h
    exact fun x hx => (placed_userPage hpage x hx).imp fun _ => .inr
  · exact fun x hx => (placed_sweep h x hx).imp fun _ => .inr
  · split at h
    · next change user policy hchange =>
      refine fun x hx => (placed_alters h x hx).imp fun name hname => .inl ⟨change, policy, ?_⟩
      rw [hchange, hname]
    · exact fun x hx => .elsewhere (h x hx)

/-- The requests of an episode enable backends or are placed by the names that it has to do with. -/
theorem placed_of_follows {c : Connector} {e : Episode} (h : c.Follows e) :
    ∀ x ∈ e.exchanges, (∃ b ∈ c.backends, x.request = Backend.enabling b) ∨ Placed e.Names x := by
  have henabling {pass : List Exchange} {r : Except Fault (List Backend.Outcome)}
      (hpass : Backend.Pass c.backends pass r) (x : Exchange) (hx : x ∈ pass) :
      ∃ b ∈ c.backends, x.request = Backend.enabling b := by
    obtain ⟨b, hb, heq⟩ := List.mem_map.mp ((IsPass.of_pass hpass).mem_enabling x hx)
    exact ⟨b, hb, heq.symm⟩
  intro x hx
  rcases h with ⟨fault, hpass, -⟩ | ⟨pass, own, hsplit, hpass, hown⟩
  · exact .inl (henabling hpass x hx)
  rw [hsplit] at hx
  rcases List.mem_append.mp hx with hx | hx
  · rcases hpass with rfl | ⟨outcomes, hpass⟩
    · cases hx
    · exact .inl (henabling hpass x hx)
  · refine .inr ((placed_own hown x hx).imp fun name hname => hname.imp id fun hlisted => ?_)
    refine hlisted.mono fun y hy => ?_
    rw [hsplit]
    exact List.mem_append_right pass hy

variable {σ : Type}

/-- Names of users stay in their place. Whatever a vault answers to operations in any order, every
operation does after its mounting pass what is its own: it reads the users of its windows in order
and changes the one it was told to, each at the path of that user, and it fails with the name where
that is no segment. So every request has a fixed path, enables a backend, or asks for a user whose
name the caller gave or a listing told; none goes to the path of a name that is no segment. A path
asks for one user only, with one suffix, and then it is no other path of the vault. -/
theorem user_names_contained (c : Connector) (g : Gateway σ) (ops : List Operation)
    (memory : Memory) (s : σ) :
    (c.chronicle g ops memory s).map Episode.op = ops ∧
    (∀ e ∈ c.chronicle g ops memory s, c.Follows e ∧ ∀ x ∈ e.exchanges,
      (x.request.path ∈ Endpoint.fixed ∨ (∃ b ∈ c.backends, x.request = Backend.enabling b) ∨
        ∃ name suffix, e.Names name ∧ Holdings.IsSegment name ∧
          Endpoint.NamesUser name suffix x.request.path) ∧
      ∀ name suffix, ¬Holdings.IsSegment name → suffix ∈ ["", "/policies"] →
        x.request.path ≠ Endpoint.userPath name ++ suffix) ∧
    (∀ name suffix, Holdings.IsSegment name → suffix ∈ ["", "/policies"] →
      Endpoint.NamesUser name suffix (Endpoint.userPath name ++ suffix)) ∧
    ∀ name suffix path, Endpoint.NamesUser name suffix path →
      path ∉ Endpoint.fixed ∧ (∀ b, path ≠ Endpoint.backend b) ∧
      ∀ other ending, Endpoint.NamesUser other ending path → name = other ∧ suffix = ending := by
  obtain ⟨hops, hfollows⟩ := follows_chronicle c g ops memory s
  have hother {name suffix path : String} (h : Endpoint.NamesUser name suffix path) :
      path ∉ Endpoint.fixed ∧ ∀ b, path ≠ Endpoint.backend b := by
    have hunder := h.isUnderUsers
    refine ⟨fun hfixed => ?_, fun b heq => ?_⟩
    · rw [Endpoint.isUnderUsers_fixed hfixed] at hunder
      cases hunder
    · rw [heq, Endpoint.isUnderUsers_backend b] at hunder
      cases hunder
  refine ⟨hops, fun e he => ⟨hfollows e he, fun x hx => ?_⟩,
    fun name suffix => Endpoint.namesUser_userPath, fun name suffix path h =>
      ⟨(hother h).1, (hother h).2, fun other ending => h.inj⟩⟩
  have hplace := placed_of_follows (hfollows e he) x hx
  have hunder (name suffix : String) :
      Endpoint.isUnderUsers (Endpoint.userPath name ++ suffix) = true :=
    Endpoint.isUnderUsers_userPath name suffix
  constructor
  · rcases hplace with hbackend | hfixed | huser
    · exact .inr (.inl hbackend)
    · exact .inl hfixed
    · exact .inr (.inr huser)
  · rintro name suffix hname hsuffix heq
    have hpath := hunder name suffix
    rw [← heq] at hpath
    rcases hplace with ⟨b, -, hbackend⟩ | hfixed | ⟨other, ending, -, -, huser⟩
    · rw [hbackend] at hpath
      have hnot := Endpoint.isUnderUsers_backend b
      exact Bool.false_ne_true (hnot.symm.trans hpath)
    · rw [Endpoint.isUnderUsers_fixed hfixed] at hpath
      cases hpath
    · exact huser.ne_userPath hname hsuffix heq

/-- A small vault with a user that is named like a way out, and one that is named like the place of
all users. -/
def hostile : Holdings :=
  { Holdings.small with
    users := [("../../sys/seal?", ⟨⟨none, none, none, none⟩, none⟩),
      (".", ⟨⟨none, none, none, none⟩, none⟩)] }

/-- A listing of hostile names asks for the first of them as one segment and fails at the second,
which it does not ask for; and a change for a user without a name asks nothing. -/
theorem user_names_contained_of_hostile :
    let ops : List Operation :=
      [.list .user none "", .grant ⟨.user, ""⟩ ⟨⟨.policy, "dev"⟩, assigned, "", "", []⟩]
    let episodes := (⟨[], 10⟩ : Connector).chronicle (Holdings.gateway Holdings.obliging) ops .fresh
      (hostile, ())
    (∀ e ∈ episodes, (⟨[], 10⟩ : Connector).Follows e) ∧
      episodes.map (fun e => (e.exchanges.map fun x => x.request.path, e.result)) =
        [(["v1/auth/userpass/users", "v1/auth/userpass/users/..%2F..%2Fsys%2Fseal%3F"],
            .error (.invalidName ".")),
          ([], .error (.invalidName ""))] := by
  intro ops episodes
  refine ⟨fun e he => ((user_names_contained _ _ ops .fresh (hostile, ())).2.1 e he).1, ?_⟩
  rfl

end Connector

end VaultAccess
