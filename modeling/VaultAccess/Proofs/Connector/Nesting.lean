import VaultAccess.Proofs.Connector.Pages
import VaultAccess.Proofs.Paging.Inner

/-!
# The holders of a policy, inside another walk

Who holds a policy is found by a walk over the users. A caller may be in the middle of other walks:
their frames stay under that of the users, and come back when the holders are all found.
-/
namespace VaultAccess

open Vault Program Paging Text

variable {τ : Type} (rest : Gateway τ) {h : Holdings} (t : τ)

/-- Begun on a cursor whose top frame is not of the users, the walk over the holders of a policy
takes one call for each window of the users, whether or not a window has a holder; a size of zero
counts as one. All pages but the last lead to the cursor with a frame of the users on top, and the
last gives the cursor back. Together they have one grant for each user who holds the policy, in the
order in which users are listed. A listing of users is read into memory, so a machine word counts
them. -/
theorem nested_grants_walk (hnames : h.WellNamed) (hnodup : (h.users.map (·.1)).Nodup)
    (hcount : h.users.length ≤ Decimal.wordLimit) (policy : Resource) (size : Nat) {text : String}
    {base : Cursor} (hdecode : Cursor.decode text .user = .ok base)
    (hbase : base.top?.map Frame.kind ≠ some .user) :
    ∃ pages,
      WalkTo (fun cursor p => (Membership.grants size policy cursor).on (Holdings.gateway rest)
        (h, t) = (.ok p, (h, t))) base.encode text pages ∧
      pages.length = max 1 (h.users.length ⌈/⌉ max size 1) ∧
      pages.flatMap Page.items =
        (Holdings.holders policy.id.name h.users).map (Membership.grantOf policy.id) ∧
      ∀ p ∈ pages.dropLast, ∃ marker, ∀ seed,
        Cursor.decode p.nextCursor seed = .ok (base.push ⟨.user, marker⟩) := by
  let found (users : List (String × UserAnswer)) : List Grant :=
    (Holdings.holders policy.id.name users).map (Membership.grantOf policy.id)
  have happend (xs ys : List (String × UserAnswer)) : found (xs ++ ys) = found xs ++ found ys := by
    simp [found, Holdings.holders]
  have hopen : openCursor text .user = .ok (base.push ⟨.user, (offsetMarker 0).getD ""⟩) :=
    openCursor_of_decode hbase hdecode
  obtain ⟨pages, hwalk, hlength, hitems, hcursors⟩ := exists_walkTo base .user size found
    (fun cursor p => (Membership.grants size policy cursor).on (Holdings.gateway rest) (h, t) =
      (.ok p, (h, t))) hcount happend
    (fun text offset batch hopen hwindow => Connector.on_grants_of_open rest hnames hnodup policy
      hopen (offsetMarker_ne_empty offset) hwindow) (by decide) hopen
  refine ⟨pages, hwalk, hlength, hitems, fun p hp => ?_⟩
  obtain ⟨marker, hnext⟩ := hcursors p hp
  exact ⟨marker, fun seed => hnext ▸ Cursor.decode_bookmarkOn base .user marker seed⟩

/-- A small vault whose last user alone holds a policy, and has it twice. -/
def lateHolder : Holdings :=
  { Holdings.small with
    users := [("ada", ⟨⟨none, none, none, none⟩, none⟩),
      ("bob", ⟨⟨some ["ops"], none, none, none⟩, none⟩),
      ("cid", ⟨⟨some ["dev", "dev"], none, none, none⟩, none⟩)] }

/-- Inside a walk of roles that is inside one of policies, three pages of one user each find the one
holder between them and give the cursor back. -/
theorem nested_grants_walk_of_lateHolder :
    let base : Cursor := ⟨[⟨.policy, "7"⟩, ⟨.role, "1"⟩]⟩
    let policy := Projection.ofPolicy ⟨"dev", none⟩ none
    lateHolder.WellNamed ∧ (lateHolder.users.map (·.1)).Nodup ∧
      lateHolder.users.length ≤ Decimal.wordLimit ∧
      Cursor.decode base.encode .user = .ok base ∧ base.top?.map Frame.kind ≠ some .user ∧
      ∃ pages,
        WalkTo (fun cursor p => (Membership.grants 1 policy cursor).on
          (Holdings.gateway Holdings.obliging) (lateHolder, ()) = (.ok p, (lateHolder, ())))
          base.encode base.encode pages ∧
        pages.length = 3 ∧
        pages.flatMap Page.items = [Membership.grantOf ⟨.policy, "dev"⟩ "cid"] ∧
        ∀ p ∈ pages.dropLast, ∃ marker, ∀ seed,
          Cursor.decode p.nextCursor seed = .ok (base.push ⟨.user, marker⟩) := by
  intro base policy
  have hnames : lateHolder.WellNamed := by
    simp [Holdings.WellNamed, lateHolder, Holdings.IsSegment]
  have hnodup : (lateHolder.users.map (·.1)).Nodup := by decide
  have hcount : lateHolder.users.length ≤ Decimal.wordLimit := by decide
  have hdecode : Cursor.decode base.encode .user = .ok base :=
    Cursor.decode_encode (List.cons_ne_nil _ _) .user
  have hbase : base.top?.map Frame.kind ≠ some .user := by decide
  obtain ⟨pages, hwalk, hlength, hitems, hcursors⟩ :=
    nested_grants_walk Holdings.obliging () hnames hnodup hcount policy 1 hdecode hbase
  exact ⟨hnames, hnodup, hcount, hdecode, hbase, pages, hwalk, hlength, hitems, hcursors⟩

end VaultAccess
