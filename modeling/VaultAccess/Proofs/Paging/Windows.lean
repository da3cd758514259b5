import Mathlib.Algebra.Order.Floor.Div
import VaultAccess.Proofs.Paging.Walk

/-!
# Walks over windows

A walk feeds each next cursor back until a page is the last. A walk over the windows of a listing
hands out every record from its start on exactly once, whatever size each call asks for, and with
one size throughout it takes no more calls than needed. Windows may be computed on machine words:
the end of a window stays at the greatest word where the sum would pass it.
-/
namespace VaultAccess.Paging

open Text

variable {ρ α : Type}

/-- Pages of calls that follow one another: every call starts where the page before it leads, and
the last page leads nowhere. Calls are counted, so that each may be made in its own way. -/
inductive Walk (page : Nat → String → Except Fault (Page α)) :
    Nat → String → List (Page α) → Prop
  | last {i : Nat} {cursor : String} {p : Page α} (hp : page i cursor = .ok p)
      (hlast : p.nextCursor = "") : Walk page i cursor [p]
  | more {i : Nat} {cursor : String} {p : Page α} {pages : List (Page α)}
      (hp : page i cursor = .ok p) (hmore : p.nextCursor ≠ "")
      (hrest : Walk page (i + 1) p.nextCursor pages) : Walk page i cursor (p :: pages)

/-- One page of a listing that is read in windows. -/
def windowPage (kind : Kind) (all : List ρ) (map : ρ → α) (size : Nat) (cursor : String) :
    Except Fault (Page α) :=
  listPage cursor kind (fun marker => window all marker size) map

/-! ## One call -/

theorem index_lt {what : String} {marker : Option String} {offset : Nat}
    (h : index what marker = .ok offset) : offset < Decimal.wordLimit := by
  cases marker with
  | none =>
    cases h
    decide
  | some m =>
    cases hm : Decimal.word? m with
    | none => simp [index, hm] at h
    | some n =>
      simp only [index, hm, Except.ok.injEq] at h
      exact h ▸ (Decimal.word?_eq_some_iff.mp hm).2

theorem index_of_writes (what : String) {m : String} {offset : Nat} (h : Decimal.Writes m offset)
    (hlt : offset < Decimal.wordLimit) : index what (some m) = .ok offset := by
  simp only [index, Decimal.word?_eq_some_iff.mpr ⟨h, hlt⟩]

theorem index_of_not_writes (what : String) {m : String}
    (h : ∀ offset, Decimal.Writes m offset → Decimal.wordLimit ≤ offset) :
    index what (some m) = .error (.cursor ("invalid " ++ what ++ " marker '" ++ m ++ "'")) := by
  cases hm : Decimal.word? m with
  | none => simp only [index, hm]
  | some n =>
    obtain ⟨hwrites, hlt⟩ := Decimal.word?_eq_some_iff.mp hm
    exact absurd (h n hwrites) (Nat.not_le_of_lt hlt)

/-- A window depends on its marker through the offset alone. -/
theorem window_congr (all : List ρ) {marker other : Option String} (size : Nat)
    (h : index "offset" marker = index "offset" other) :
    window all marker size = window all other size := by
  rw [window, window, h]

theorem window_of_not_writes (all : List ρ) (size : Nat) {m : String}
    (h : ∀ offset, Decimal.Writes m offset → Decimal.wordLimit ≤ offset) :
    window all (some m) size = .error (.cursor ("invalid offset marker '" ++ m ++ "'")) := by
  rw [window, index_of_not_writes "offset" h]
  rfl

theorem windowPage_bookmark (kind : Kind) {all : List ρ} (map : ρ → α) {size : Nat}
    {marker : Option String} {batch : Batch ρ} (hmarker : marker ≠ some "")
    (hwindow : window all marker size = .ok batch) :
    windowPage kind all map size (bookmark kind marker) =
      .ok ⟨batch.records.map map, bookmark kind batch.next⟩ := by
  have hturn := turn_bookmark kind (marker.getD "") map (window_next_ne_empty hwindow)
  rw [windowPage, listPage_bookmark kind hmarker, hwindow]
  exact congrArg Except.ok hturn

/-- A call fails as its window does. -/
theorem windowPage_error (kind : Kind) {all : List ρ} (map : ρ → α) {size : Nat}
    {marker : Option String} {e : Fault} (hmarker : marker ≠ some "")
    (hwindow : window all marker size = .error e) :
    windowPage kind all map size (bookmark kind marker) = .error e := by
  rw [windowPage, listPage_bookmark kind hmarker, hwindow]
  rfl

/-! ## Whole walks -/

theorem max_ceilDiv_of_le {n size : Nat} (hsize : 0 < size) (h : n ≤ size) :
    max 1 (n ⌈/⌉ size) = 1 := by
  have hle : n ⌈/⌉ size ≤ 1 := by rwa [ceilDiv_le_iff_le_mul hsize, Nat.mul_one]
  omega

/-- Of more than a window's records, the first window takes one call and leaves the rest. -/
theorem max_ceilDiv_of_lt {n size : Nat} (hsize : 0 < size) (h : size < n) :
    max 1 (n ⌈/⌉ size) = max 1 ((n - size) ⌈/⌉ size) + 1 := by
  have hsum : n + size - 1 = n - size + size - 1 + size := by omega
  have hdiv : n ⌈/⌉ size = (n - size) ⌈/⌉ size + 1 := by
    rw [Nat.ceilDiv_eq_add_pred_div, Nat.ceilDiv_eq_add_pred_div, hsum,
      Nat.add_div_right _ hsize]
  have hpos : 1 ≤ (n - size) ⌈/⌉ size := by
    by_contra hzero
    have hle : n - size ≤ size * 0 := (ceilDiv_le_iff_le_mul hsize).mp (by omega)
    omega
  omega

/-- From every marker a walk hands out what is left of the listing. Each window moves the offset on,
so the induction is on the number of records left. -/
theorem exists_walk (kind : Kind) {all : List ρ} (map : ρ → α)
    (hcount : all.length ≤ Decimal.wordLimit) (sizes : Nat → Nat) {marker : Option String}
    {offset : Nat} (hmarker : marker ≠ some "") (hindex : index "offset" marker = .ok offset)
    (i : Nat) :
    ∃ pages, Walk (fun i => windowPage kind all map (sizes i)) i (bookmark kind marker) pages ∧
      pages.flatMap Page.items = (all.drop offset).map map ∧
      ∀ size, (∀ i, sizes i = size) →
        pages.length = max 1 ((all.length - offset) ⌈/⌉ max size 1) := by
  induction hleft : all.length - offset using Nat.strong_induction_on
    generalizing marker offset i with
  | _ left ih =>
    have hlt := index_lt hindex
    have hcongr : window all marker (sizes i) = window all (offsetMarker offset) (sizes i) :=
      window_congr all (sizes i) (hindex.trans (index_offsetMarker "offset" hlt).symm)
    by_cases hmore : offset + max (sizes i) 1 < all.length
    · have hstop : offset + max (sizes i) 1 < Decimal.wordLimit := by omega
      have hpage := windowPage_bookmark kind map hmarker
        (hcongr.trans (window_more all (sizes i) hlt hmore))
      obtain ⟨pages, hwalk, hitems, hlength⟩ := ih (all.length - (offset + max (sizes i) 1))
        (by omega) (offsetMarker_ne_empty _) (index_offsetMarker "offset" hstop) (i + 1) rfl
      have hne : bookmark kind (offsetMarker (offset + max (sizes i) 1)) ≠ "" :=
        bookmark_offsetMarker_ne kind (by omega)
      refine ⟨_, .more hpage hne hwalk, ?_, fun size hsize => ?_⟩
      · rw [List.flatMap_cons, hitems, ← List.map_append, ← drop_eq_append]
      · rw [hsize i] at hmore
        have hrest : all.length - (offset + max size 1) = left - max size 1 := by omega
        have hcalls := max_ceilDiv_of_lt (show 0 < max size 1 by omega)
          (show max size 1 < left by omega)
        rw [List.length_cons, hlength size hsize, hsize i, hrest, hcalls]
    · have hpage := windowPage_bookmark kind map hmarker
        (hcongr.trans (window_last all (sizes i) hlt (by omega)))
      refine ⟨_, .last hpage rfl, List.append_nil _, fun size hsize => ?_⟩
      rw [hsize i] at hmore
      rw [List.length_singleton, max_ceilDiv_of_le (by omega) (by omega)]

/-! ## On machine words -/

/-- The sum of two words, or the greatest word where that sum is none. -/
def saturatingAdd (a b : UInt64) : UInt64 :=
  if a + b < a then .ofNat (Decimal.wordLimit - 1) else a + b

/-- A window whose offset, size and end are machine words. -/
def wordWindow (all : List ρ) (marker : Option String) (size : UInt64) :
    Except Fault (Batch ρ) :=
  match index "offset" marker with
  | .error e => .error e
  | .ok offset =>
    let start := UInt64.ofNat offset
    let total := UInt64.ofNat all.length
    if total ≤ start then .ok (.whole [])
    else
      let stop := min (saturatingAdd start (max size 1)) total
      .ok ⟨(all.drop start.toNat).take (stop - start).toNat,
        if stop < total then some (Decimal.write stop.toNat) else none⟩

theorem toNat_saturatingAdd (a b : UInt64) :
    (saturatingAdd a b).toNat = min (a.toNat + b.toNat) (Decimal.wordLimit - 1) := by
  have ha := a.toNat_lt
  have hb := b.toNat_lt
  have hlimit : Decimal.wordLimit = 2 ^ 64 := rfl
  unfold saturatingAdd
  simp only [UInt64.lt_iff_toNat_lt, UInt64.toNat_add]
  split
  · rw [UInt64.toNat_ofNat_of_lt' (by rw [hlimit]; decide)]
    omega
  · rw [UInt64.toNat_add]
    omega

theorem toNat_max (a b : UInt64) : (max a b).toNat = max a.toNat b.toNat := by
  rw [UInt64.max_def, Nat.max_def]
  simp only [UInt64.le_iff_toNat_le]
  split <;> rfl

theorem toNat_min (a b : UInt64) : (min a b).toNat = min a.toNat b.toNat := by
  rw [UInt64.min_def, Nat.min_def]
  simp only [UInt64.le_iff_toNat_le]
  split <;> rfl

/-- The end of a window never passes the last word, so words lose nothing. -/
theorem wordWindow_eq_window {all : List ρ} (hcount : all.length < Decimal.wordLimit)
    (marker : Option String) (size : UInt64) :
    wordWindow all marker size = window all marker size.toNat := by
  unfold wordWindow window
  cases hindex : index "offset" marker with
  | error e => rfl
  | ok offset =>
    have hstart : (UInt64.ofNat offset).toNat = offset :=
      UInt64.toNat_ofNat_of_lt' (index_lt hindex)
    have htotal : (UInt64.ofNat all.length).toNat = all.length :=
      UInt64.toNat_ofNat_of_lt' hcount
    have hstop : (min (saturatingAdd (.ofNat offset) (max size 1)) (.ofNat all.length)).toNat =
        min (offset + max size.toNat 1) all.length := by
      rw [toNat_min, toNat_saturatingAdd, toNat_max, hstart, htotal]
      have hone : (1 : UInt64).toNat = 1 := rfl
      omega
    simp only [UInt64.le_iff_toNat_le, UInt64.lt_iff_toNat_lt, hstart, htotal, hstop]
    by_cases hend : all.length ≤ offset
    · rw [if_pos hend, if_pos hend]
    · have hle : UInt64.ofNat offset ≤
          min (saturatingAdd (.ofNat offset) (max size 1)) (.ofNat all.length) := by
        rw [UInt64.le_iff_toNat_le, hstop, hstart]
        omega
      rw [if_neg hend, if_neg hend, UInt64.toNat_sub_of_le _ _ hle, hstop, hstart]

/-! ## The walk of a listing -/

/-- A walk over windows hands out every record exactly once. From the start of a listing it ends,
with every call a success and the mapped records in order, whatever size each call asks for; with
one size throughout it takes one call for each window. From a frame whose marker writes an offset it
hands out the records from there on, and a marker that writes no word is refused. A size of zero
counts as one. A listing is kept in memory, so its length is a machine word, and the window that
words compute is the exact one. -/
theorem offset_walk_exact (kind : Kind) (all : List ρ) (map : ρ → α)
    (hcount : all.length < Decimal.wordLimit) :
    (∀ sizes : Nat → Nat,
      ∃ pages, Walk (fun i => windowPage kind all map (sizes i)) 0 "" pages ∧
        pages.flatMap Page.items = all.map map ∧
        ∀ size, (∀ i, sizes i = size) → pages.length = max 1 (all.length ⌈/⌉ max size 1)) ∧
    (∀ (sizes : Nat → Nat) (f : Frame) (offset : Nat), f.kind = kind →
      Decimal.Writes f.marker offset → offset < Decimal.wordLimit →
      ∃ pages, Walk (fun i => windowPage kind all map (sizes i)) 0 (Cursor.encode ⟨[f]⟩) pages ∧
        pages.flatMap Page.items = (all.drop offset).map map) ∧
    (∀ (size : Nat) (m : String),
      (∀ offset, Decimal.Writes m offset → Decimal.wordLimit ≤ offset) →
      window all (some m) size = .error (.cursor ("invalid offset marker '" ++ m ++ "'")) ∧
      ∀ f : Frame, f.kind = kind → f.marker? = some m →
        windowPage kind all map size (Cursor.encode ⟨[f]⟩) =
          .error (.cursor ("invalid offset marker '" ++ m ++ "'"))) ∧
    ∀ (marker : Option String) (size : UInt64),
      wordWindow all marker size = window all marker size.toNat := by
  refine ⟨fun sizes => ?_, ?_, fun size m hm => ⟨window_of_not_writes all size hm, ?_⟩,
    wordWindow_eq_window hcount⟩
  · have hnone : none ≠ some "" := nofun
    exact exists_walk kind map (Nat.le_of_lt hcount) sizes hnone rfl 0
  · rintro sizes ⟨k, marker⟩ offset hkind hwrites hlt
    obtain rfl : k = kind := hkind
    have hne : some marker ≠ some "" := fun h =>
      Decimal.not_writes_empty (Option.some.inj h ▸ hwrites)
    obtain ⟨pages, hwalk, hitems, -⟩ := exists_walk k map (Nat.le_of_lt hcount) sizes hne
      (index_of_writes "offset" hwrites hlt) 0
    rw [← bookmark_some]
    exact ⟨pages, hwalk, hitems⟩
  · rintro ⟨k, marker⟩ hkind hmarker
    obtain rfl : k = kind := hkind
    obtain ⟨hne, hm'⟩ := Frame.marker?_eq_some_iff.mp hmarker
    obtain rfl : marker = m := hm'
    have hsome : some marker ≠ some "" := fun h => hne (Option.some.inj h)
    rw [← bookmark_some]
    exact windowPage_error k map hsome (window_of_not_writes all size hm)

/-- Five records two by two, from a marker with a plus sign and zeros in front, and from a marker
that writes no number. -/
theorem offset_walk_exact_of_five :
    let all := ["a", "b", "c", "d", "e"]
    all.length < Decimal.wordLimit ∧
      (∃ pages, Walk (fun _ => windowPage .user all String.length 2) 0 "" pages ∧
        pages.flatMap Page.items = [1, 1, 1, 1, 1] ∧ pages.length = 3) ∧
      Decimal.Writes "+003" 3 ∧
      (∃ pages, Walk (fun i => windowPage .user all id i) 0 (Cursor.encode ⟨[⟨.user, "+003"⟩]⟩)
        pages ∧ pages.flatMap Page.items = ["d", "e"]) ∧
      (∀ offset, Decimal.Writes "3 " offset → Decimal.wordLimit ≤ offset) ∧
      windowPage .user all id 2 (Cursor.encode ⟨[⟨.user, "3 "⟩]⟩) =
        .error (.cursor "invalid offset marker '3 '") := by
  intro all
  have hcount : all.length < Decimal.wordLimit := by decide
  have hwrites : Decimal.Writes "+003" 3 :=
    (Decimal.word?_eq_some_iff.mp (show Decimal.word? "+003" = some 3 by decide)).1
  have hrefused : ∀ offset, Decimal.Writes "3 " offset → Decimal.wordLimit ≤ offset := by
    intro offset h
    by_contra hlt
    have hword := Decimal.word?_eq_some_iff.mpr ⟨h, Nat.lt_of_not_le hlt⟩
    have hnone : Decimal.word? "3 " = none := by decide
    exact absurd (hnone.symm.trans hword) nofun
  obtain ⟨hstart, -, -, -⟩ := offset_walk_exact .user all String.length hcount
  obtain ⟨-, hfrom, herror, -⟩ := offset_walk_exact .user all id hcount
  obtain ⟨pages, hwalk, hitems, hlength⟩ := hstart fun _ => 2
  have hthree : pages.length = 3 := (hlength 2 fun _ => rfl).trans (by decide)
  refine ⟨hcount, ⟨pages, hwalk, hitems, hthree⟩, hwrites, ?_, hrefused, ?_⟩
  · exact hfrom (fun i => i) ⟨.user, "+003"⟩ 3 rfl hwrites (by decide)
  · exact (herror 2 "3 " hrefused).2 ⟨.user, "3 "⟩ rfl rfl

end VaultAccess.Paging
