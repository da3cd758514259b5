import VaultAccess.Proofs.Paging.Windows

/-!
# Walks that give a cursor back

A walk over the windows of a listing may begin on a cursor with frames of other walks. Its pages
carry that cursor along under a frame of their own, and the last page leads back to it.
-/
namespace VaultAccess.Paging

open Text

variable {ρ α : Type}

/-- Pages of calls that follow one another: every call starts where the page before it leads, and
the last page is the first that leads to a given text. -/
inductive WalkTo (gives : String → Page α → Prop) (stop : String) : String → List (Page α) → Prop
  | last {cursor : String} {p : Page α} (hp : gives cursor p) (hstop : p.nextCursor = stop) :
      WalkTo gives stop cursor [p]
  | more {cursor : String} {p : Page α} {pages : List (Page α)} (hp : gives cursor p)
      (hmore : p.nextCursor ≠ stop) (hrest : WalkTo gives stop p.nextCursor pages) :
      WalkTo gives stop cursor (p :: pages)

theorem WalkTo.ne_nil {gives : String → Page α → Prop} {stop cursor : String}
    {pages : List (Page α)} (h : WalkTo gives stop cursor pages) : pages ≠ [] := by
  cases h <;> exact List.cons_ne_nil _ _

/-- From an offset on a walk hands out what is left of the listing, one page for each window, and
then gives its base back. The induction is on the number of records left. -/
theorem exists_walkTo (base : Cursor) (kind : Kind) {all : List ρ} (size : Nat)
    (f : List ρ → List α) (gives : String → Page α → Prop)
    (hcount : all.length ≤ Decimal.wordLimit) (happend : ∀ xs ys, f (xs ++ ys) = f xs ++ f ys)
    (hpage : ∀ text offset batch,
      openCursor text kind = .ok (base.push ⟨kind, (offsetMarker offset).getD ""⟩) →
      window all (offsetMarker offset) size = .ok batch →
      gives text ⟨f batch.records, base.bookmarkOn kind batch.next⟩)
    {text : String} {offset : Nat} (hoffset : offset < Decimal.wordLimit)
    (hopen : openCursor text kind = .ok (base.push ⟨kind, (offsetMarker offset).getD ""⟩)) :
    ∃ pages, WalkTo gives base.encode text pages ∧
      pages.length = max 1 ((all.length - offset) ⌈/⌉ max size 1) ∧
      pages.flatMap Page.items = f (all.drop offset) ∧
      ∀ p ∈ pages.dropLast, ∃ marker, p.nextCursor = base.bookmarkOn kind (some marker) := by
  induction hleft : all.length - offset using Nat.strong_induction_on generalizing text offset with
  | _ left ih =>
    by_cases hmore : offset + max size 1 < all.length
    · have hp := hpage text offset _ hopen (window_more all size hoffset hmore)
      have hmarker := offsetMarker_of_pos (show 0 < offset + max size 1 by omega)
      have hnext := openCursor_of_decode_push (Cursor.decode_bookmarkOn base kind
        (Decimal.write (offset + max size 1)) kind)
      rw [hmarker] at hp
      obtain ⟨pages, hwalk, hlength, hitems, hcursors⟩ := ih _ (by omega)
        (show offset + max size 1 < Decimal.wordLimit by omega) (by rw [hmarker]; exact hnext) rfl
      refine ⟨_, .more hp (Cursor.bookmarkOn_some_ne base kind _) hwalk, ?_, ?_, ?_⟩
      · have hrest : all.length - (offset + max size 1) = left - max size 1 := by omega
        rw [List.length_cons, hlength, hrest,
          max_ceilDiv_of_lt (show 0 < max size 1 by omega) (show max size 1 < left by omega)]
      · rw [List.flatMap_cons, hitems, ← happend, ← drop_eq_append]
      · rw [List.dropLast_cons_of_ne_nil hwalk.ne_nil]
        intro p hmem
        rcases List.mem_cons.mp hmem with rfl | hmem
        · exact ⟨_, rfl⟩
        · exact hcursors p hmem
    · have hp := hpage text offset _ hopen (window_last all size hoffset (by omega))
      refine ⟨_, .last hp rfl, ?_, List.append_nil _, fun p hmem => (List.not_mem_nil hmem).elim⟩
      rw [List.length_singleton, max_ceilDiv_of_le (by omega) (by omega)]

end VaultAccess.Paging
