import VaultAccess.Proofs.Connector.Writes
import VaultAccess.Proofs.Vault.Replay
import VaultAccess.Proofs.Vault.UserPaths

/-!
# Visits to users

What an operation asks about users, told from what it was answered. A page of users or of holders
lists the names and visits those of its window in order. A user whose name is no segment is not
asked for: the visit fails there, and with it the operation.
-/
namespace VaultAccess

open Vault Program

/-! ## One user -/

namespace Vault

/-- What an answer to the reading of a user tells. -/
def userIn (answer : Answer) : Except Fault UserAnswer :=
  answer.bind fun r => r.read UserAnswer.ofJson

/-- The names that an answer to the listing of users tells. Where there is nothing to list there are
none. -/
def usersIn (answer : Answer) : Except Fault (List String) :=
  answer.bind fun r =>
    if r.status = 404 then .ok [] else (r.read Listing.ofJson).map fun listing => listing.data.keys

/-- The reading of a user and what it comes to. -/
inductive Visit (name : String) : List Exchange → Except Fault Unit → Prop
  | refused (h : ¬Holdings.IsSegment name) : Visit name [] (.error (.invalidName name))
  | asked (h : Holdings.IsSegment name) (answer : Answer) :
      Visit name [⟨.get (Endpoint.userPath name), answer⟩] ((userIn answer).map fun _ => ())

/-- The reading of users in order, up to the first that fails. -/
inductive Visits : List String → List Exchange → Except Fault Unit → Prop
  | nil : Visits [] [] (.ok ())
  | failed {name : String} {rest : List String} {xs : List Exchange} {e : Fault}
      (h : Visit name xs (.error e)) : Visits (name :: rest) xs (.error e)
  | next {name : String} {rest : List String} {xs ys : List Exchange} {r : Except Fault Unit}
      (h : Visit name xs (.ok ())) (hrest : Visits rest ys r) : Visits (name :: rest) (xs ++ ys) r

variable {xs : List Exchange}

theorem plays_getUser {name : String} {r : Except Fault UserRecord}
    (h : Plays (getUser name).run xs (done r)) : Visit name xs (r.map fun _ => ()) := by
  rcases Action.plays_ofExcept_bind h with ⟨e, hpath, rfl, rfl⟩ | ⟨path, hpath, hget⟩
  · obtain ⟨hname, rfl⟩ := Endpoint.user_eq_error hpath
    exact .refused hname
  · obtain ⟨hname, rfl⟩ := Endpoint.user_eq_ok_iff.mp hpath
    obtain ⟨ra, hvalue, rfl⟩ := Action.plays_map hget
    rw [String.append_empty] at hvalue
    have hanswer : ∃ answer, xs = [⟨.get (Endpoint.userPath name), answer⟩] ∧
        ra = userIn answer := by
      rcases Action.plays_bind hvalue with ⟨e, hask, rfl⟩ | ⟨response, ys, zs, rfl, hask, hread⟩
      · obtain ⟨answer, rfl, rfl⟩ := Action.plays_request hask
        exact ⟨_, rfl, rfl⟩
      · obtain ⟨answer, rfl, rfl⟩ := Action.plays_request hask
        obtain ⟨rfl, rfl⟩ := Action.plays_ofExcept hread
        exact ⟨_, rfl, rfl⟩
    obtain ⟨answer, rfl, rfl⟩ := hanswer
    have hvisit := Visit.asked hname answer
    cases hread : userIn answer with
    | ok a => rwa [hread] at hvisit
    | error e => rwa [hread] at hvisit

theorem plays_userPolicies {name : String} {r : Except Fault (List String)}
    (h : Plays (userPolicies name).run xs (done r)) : Visit name xs (r.map fun _ => ()) := by
  obtain ⟨ra, hget, rfl⟩ := Action.plays_map h
  have hvisit := plays_getUser hget
  cases ra <;> exact hvisit

/-- The listing of users is one request. -/
theorem plays_listUsers {r : Except Fault (List String)}
    (h : Plays listUsers.run xs (done r)) :
    ∃ answer, xs = [⟨.list Endpoint.users, answer⟩] ∧ r = usersIn answer := by
  obtain ⟨ra, hlist, rfl⟩ := Action.plays_map h
  rcases Action.plays_bind hlist with ⟨e, hask, rfl⟩ | ⟨response, ys, zs, rfl, hask, hread⟩
  · obtain ⟨answer, rfl, rfl⟩ := Action.plays_request hask
    exact ⟨_, rfl, rfl⟩
  obtain ⟨answer, rfl, rfl⟩ := Action.plays_request hask
  refine ⟨.ok response, ?_⟩
  split at hread
  · next hnone =>
    obtain ⟨hzs, rfl⟩ : zs = [] ∧ ra = .ok Listing.empty := by
      rcases Action.plays_bind hread with ⟨e, hnote, -⟩ | ⟨u, ys, zs, rfl, hnote, hpure⟩
      · cases (Action.plays_note hnote).2
      · obtain ⟨rfl, -⟩ := Action.plays_note hnote
        obtain ⟨rfl, rfl⟩ := Action.plays_pure hpure
        exact ⟨rfl, rfl⟩
    rw [hzs]
    refine ⟨rfl, ?_⟩
    change _ = if response.status = 404 then _ else _
    rw [if_pos hnone]
    rfl
  · next hsome =>
    obtain ⟨rfl, rfl⟩ := Action.plays_ofExcept hread
    refine ⟨rfl, ?_⟩
    change _ = if response.status = 404 then _ else _
    rw [if_neg hsome]

end Vault

/-! ## Pages of users -/

open Paging

/-- The window of the listed names that a page at a marker visits. -/
def windowIn (marker : Option String) (size : Nat) (answer : Answer) :
    Except Fault (Batch String) :=
  (usersIn answer).bind fun names => window names marker size

/-- What a page of users or of holders asks at a cursor, and the cursor that it leads to: it lists the
names and visits those of its window. -/
inductive UserPage (size : Nat) (cursor : String) : List Exchange → Except Fault String → Prop
  | unread {e : Fault} (h : openCursor cursor .user = .error e) : UserPage size cursor [] (.error e)
  | unlisted {c : Cursor} {answer : Answer} {e : Fault} (hc : openCursor cursor .user = .ok c)
      (h : windowIn (c.top?.bind Frame.marker?) size answer = .error e) :
      UserPage size cursor [⟨.list Endpoint.users, answer⟩] (.error e)
  | visited {c : Cursor} {answer : Answer} {batch : Batch String} {xs : List Exchange}
      {r : Except Fault Unit} (hc : openCursor cursor .user = .ok c)
      (h : windowIn (c.top?.bind Frame.marker?) size answer = .ok batch)
      (hvisits : Visits batch.records xs r) :
      UserPage size cursor (⟨.list Endpoint.users, answer⟩ :: xs)
        (r.map fun _ => (c.advance batch.next).encode)

namespace Membership

variable {xs : List Exchange}

theorem plays_holders {policy : String} {users : List String} {r : Except Fault (List String)}
    (h : Plays (holders policy users).run xs (done r)) : Visits users xs (r.map fun _ => ()) := by
  induction users generalizing xs r with
  | nil =>
    obtain ⟨rfl, rfl⟩ := Action.plays_pure h
    exact .nil
  | cons user rest ih =>
    rcases Action.plays_bind h with ⟨e, hread, rfl⟩ | ⟨policies, ys, zs, rfl, hread, hrest⟩
    · exact .failed (plays_userPolicies hread)
    · obtain ⟨ra, hothers, rfl⟩ := Action.plays_map hrest
      have hvisits := Visits.next (plays_userPolicies hread) (ih hothers)
      cases ra <;> exact hvisits

/-- A step fails to read its cursor, or does what it does at the marker of its top frame. -/
theorem plays_loggedPage {ρ α : Type} {cursor : String} {kind : Kind}
    {fetch : Option String → Action (Batch ρ)} {map : ρ → α} {r : Except Fault (Page α)}
    (h : Plays (loggedPage cursor kind fetch map).run xs (done r)) :
    (∃ e, openCursor cursor kind = .error e ∧ xs = [] ∧ r = .error e) ∨
      ∃ c batch, openCursor cursor kind = .ok c ∧
        Plays (fetch (c.top?.bind Frame.marker?)).run xs (done batch) ∧ r = batch.map (turn c map) := by
  unfold loggedPage listPage at h
  split at h
  · next e hc =>
    obtain ⟨rfl, rfl⟩ := Action.plays_throw h
    exact .inl ⟨e, hc, rfl, rfl⟩
  · next c hc =>
    obtain ⟨batch, hfetch, rfl⟩ := Action.plays_map h
    refine .inr ⟨c, batch, hc, ?_, rfl⟩
    rcases Action.plays_bind hfetch with ⟨e, hfetched, rfl⟩ | ⟨x, ys, zs, rfl, hfetched, hlast⟩
    · exact hfetched
    · obtain ⟨u, hnote, rfl⟩ := Action.plays_map hlast
      obtain ⟨rfl, rfl⟩ := Action.plays_note hnote
      rw [List.append_nil]
      exact hfetched

/-- A step that does something with a window of the users visits them, if that does. -/
theorem plays_userWindow {ρ α : Type} {cursor : String} {size : Nat}
    {f : List String → Action (List ρ)} {map : ρ → α} {r : Except Fault (Page α)}
    (hf : ∀ names ys found, Plays (f names).run ys (done found) →
      Visits names ys (found.map fun _ => ()))
    (h : Plays (loggedPage cursor .user (fun marker => do
      let names ← listUsers
      let window ← Action.ofExcept (Paging.window names marker size)
      let found ← f window.records
      return ⟨found, window.next⟩) map).run xs (done r)) :
    UserPage size cursor xs (r.map Page.nextCursor) := by
  rcases plays_loggedPage h with ⟨e, hc, rfl, rfl⟩ | ⟨c, batch, hc, hfetch, rfl⟩
  · exact .unread hc
  rcases Action.plays_bind hfetch with ⟨e, hlist, rfl⟩ | ⟨names, ys, zs, rfl, hlist, hwindow⟩
  · obtain ⟨answer, rfl, hnames⟩ := plays_listUsers hlist
    exact .unlisted hc (by rw [windowIn, ← hnames]; rfl)
  obtain ⟨answer, rfl, hnames⟩ := plays_listUsers hlist
  have hin : windowIn (c.top?.bind Frame.marker?) size answer =
      window names (c.top?.bind Frame.marker?) size := by rw [windowIn, ← hnames]; rfl
  rcases Action.plays_ofExcept_bind hwindow with ⟨e, he, rfl, rfl⟩ | ⟨w, hw, hvisits⟩
  · exact .unlisted hc (hin.trans he)
  obtain ⟨found, hfound, rfl⟩ := Action.plays_map hvisits
  have hpage := UserPage.visited hc (hin.trans hw) (hf _ _ _ hfound)
  cases found <;> exact hpage

theorem plays_grants {pageSize : Nat} {policy : Resource} {cursor : String}
    {r : Except Fault (Page Grant)} (h : Plays (grants pageSize policy cursor).run xs (done r)) :
    UserPage pageSize cursor xs (r.map Page.nextCursor) :=
  plays_userWindow (fun _ _ _ => plays_holders) h

end Membership

namespace Connector

variable {xs : List Exchange}

theorem plays_getUsers {names : List String} {r : Except Fault (List UserRecord)}
    (h : Plays (getUsers names).run xs (done r)) : Visits names xs (r.map fun _ => ()) := by
  induction names generalizing xs r with
  | nil =>
    obtain ⟨rfl, rfl⟩ := Action.plays_pure h
    exact .nil
  | cons name rest ih =>
    rcases Action.plays_bind h with ⟨e, hread, rfl⟩ | ⟨user, ys, zs, rfl, hread, hrest⟩
    · exact .failed (plays_getUser hread)
    · obtain ⟨ra, hothers, rfl⟩ := Action.plays_map hrest
      have hvisits := Visits.next (plays_getUser hread) (ih hothers)
      cases ra <;> exact hvisits

theorem plays_listUserPage {pageSize : Nat} {parent : Option ResourceId} {cursor : String}
    {r : Except Fault (Page Resource)}
    (h : Plays (listUserPage pageSize parent cursor).run xs (done r)) :
    UserPage pageSize cursor xs (r.map Page.nextCursor) :=
  Membership.plays_userWindow (fun _ _ _ => plays_getUsers) h

end Connector

/-! ## Changes -/

namespace Membership

/-- What a change of a user's policies asks: it reads the list and replaces it by its revision. -/
inductive Alters (change : Change) (user policy : String) :
    List Exchange → Except Fault Unit → Prop
  | refused (h : ¬Holdings.IsSegment user) :
      Alters change user policy [] (.error (.invalidName user))
  | unrevised (h : Holdings.IsSegment user) {answer : Answer} {e : Fault}
      (hread : (policiesIn answer).bind (revised change user policy) = .error e) :
      Alters change user policy [⟨.get (Endpoint.userPath user), answer⟩] (.error e)
  | replaced (h : Holdings.IsSegment user) {answer : Answer} {next : List String}
      (hread : (policiesIn answer).bind (revised change user policy) = .ok next)
      (answer' : Answer) :
      Alters change user policy
        [⟨.get (Endpoint.userPath user), answer⟩,
          ⟨.post (Endpoint.userPath user ++ "/policies") (policiesBody next), answer'⟩]
        (accepted answer')

/-- Once the list was read, a change fails or replaces it. -/
theorem plays_afterRead {change : Change} {user policy path : String} {policies : List String}
    {xs : List Exchange} {r : Except Fault Unit}
    (h : Plays (afterRead change user policy path policies) xs (done r)) :
    (∃ e, revised change user policy policies = .error e ∧ xs = [] ∧ r = .error e) ∨
      ∃ next answer, revised change user policy policies = .ok next ∧
        xs = [⟨.post (path ++ "/policies") (policiesBody next), answer⟩] ∧ r = accepted answer := by
  unfold afterRead at h
  split at h
  · next e hrevised =>
    cases h with
    | note hdone =>
      cases hdone
      exact .inl ⟨e, hrevised, rfl, rfl⟩
  · next next hrevised =>
    unfold replacing at h
    cases h with
    | @ask _ _ answer _ ys hmade =>
    refine .inr ⟨next, answer, hrevised, ?_⟩
    dsimp only at hmade
    split at hmade
    · next e haccepted =>
      cases hmade
      exact ⟨rfl, haccepted.symm⟩
    · next haccepted =>
      cases hmade with
      | note hdone =>
        cases hdone
        exact ⟨rfl, haccepted.symm⟩

theorem plays_underLock {change : Change} {user policy : String} {xs : List Exchange}
    {r : Except Fault Unit} (h : Plays (underLock change user policy).run xs (done r)) :
    Alters change user policy xs r := by
  cases hpath : Endpoint.user user "" with
  | error e =>
    obtain ⟨hname, rfl⟩ := Endpoint.user_eq_error hpath
    rw [run_underLock_of_error change policy hpath] at h
    cases h with
    | note hdone =>
      cases hdone
      exact .refused hname
  | ok path =>
    obtain ⟨hname, rfl⟩ := Endpoint.user_eq_ok_iff.mp hpath
    rw [run_underLock change policy hpath, String.append_empty] at h
    cases h with
    | note hask =>
    cases hask with
    | @ask _ _ answer _ ys hread =>
    dsimp only at hread
    split at hread
    · next e hpolicies =>
      cases hread
      exact .unrevised hname (by rw [hpolicies]; rfl)
    · next policies hpolicies =>
      rcases plays_afterRead hread with
        ⟨e, hrevised, rfl, rfl⟩ | ⟨next, answer', hrevised, rfl, rfl⟩
      · exact .unrevised hname (by rw [hpolicies]; exact hrevised)
      · exact .replaced hname (by rw [hpolicies]; exact hrevised) answer'

end Membership

end VaultAccess
