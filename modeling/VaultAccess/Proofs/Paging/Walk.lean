import VaultAccess.Proofs.Paging.Frames
import VaultAccess.Proofs.Text.Decimal

/-!
# Walking a kind

The cursors of the walk of one kind: the empty text at its start, and afterwards one frame with the
marker that the walk has come to. A page leads from marker to marker, and the windows of a listing
cover it without gap or overlap.
-/
namespace VaultAccess.Paging

open Text

/-- The cursor of a walk that has come to a marker. -/
def bookmark (kind : Kind) : Option String → String
  | none => ""
  | some marker => Cursor.encode ⟨[⟨kind, marker⟩]⟩

theorem bookmark_some (kind : Kind) (marker : String) :
    bookmark kind (some marker) = Cursor.encode ⟨[⟨kind, marker⟩]⟩ := rfl

/-- A walk of one kind has no frames below its own. -/
theorem bookmark_eq (kind : Kind) (marker : Option String) :
    bookmark kind marker = Cursor.bookmarkOn .empty kind marker := by
  cases marker <;> rfl

/-- A bookmark opens the frame that it marks. -/
theorem openCursor_bookmark (kind : Kind) (marker : Option String) :
    openCursor (bookmark kind marker) kind = .ok ⟨[⟨kind, marker.getD ""⟩]⟩ := by
  have hbase : Cursor.empty.top?.map Frame.kind ≠ some kind := nofun
  rw [bookmark_eq, openCursor_bookmarkOn hbase]
  rfl

theorem bookmark_some_ne (kind : Kind) (marker : String) : bookmark kind (some marker) ≠ "" :=
  Cursor.encode_ne_empty ⟨kind, marker⟩ []

theorem bookmark_injective (kind : Kind) {marker other : Option String}
    (h : bookmark kind marker = bookmark kind other) : marker = other := by
  cases marker with
  | none =>
    cases other with
    | none => rfl
    | some other => exact absurd h.symm (bookmark_some_ne kind other)
  | some marker =>
    cases other with
    | none => exact absurd h (bookmark_some_ne kind marker)
    | some other =>
      cases Cursor.encode_injective h
      rfl

theorem Frame.marker?_eq_some_iff {f : Frame} {marker : String} :
    f.marker? = some marker ↔ f.marker ≠ "" ∧ f.marker = marker := by
  unfold marker?
  by_cases h : f.marker = "" <;> simp [h]

/-- The page of a batch leads to the batch's next marker. -/
theorem turn_bookmark {ρ α : Type} (kind : Kind) (marker : String) (map : ρ → α)
    {batch : Batch ρ} (h : batch.next ≠ some "") :
    turn ⟨[⟨kind, marker⟩]⟩ map batch = ⟨batch.records.map map, bookmark kind batch.next⟩ := by
  rw [bookmark_eq]
  exact turn_push .empty kind marker map h

/-- A step from a bookmark fetches the batch at its marker. -/
theorem listPage_bookmark {m : Type → Type} [Monad m] [MonadExcept Fault m] {ρ α : Type}
    (kind : Kind) {marker : Option String} (h : marker ≠ some "")
    (fetch : Option String → m (Batch ρ)) (map : ρ → α) :
    listPage (bookmark kind marker) kind fetch map =
      (do
        let batch ← fetch marker
        return turn ⟨[⟨kind, marker.getD ""⟩]⟩ map batch) := by
  have hopen : openCursor (bookmark kind marker) kind =
      .ok (Cursor.empty.push ⟨kind, marker.getD ""⟩) := openCursor_bookmark kind marker
  exact listPage_of_open hopen h fetch map

/-! ## Windows -/

/-- The marker of an offset. -/
def offsetMarker (offset : Nat) : Option String :=
  if offset = 0 then none else some (Decimal.write offset)

theorem offsetMarker_of_pos {offset : Nat} (h : 0 < offset) :
    offsetMarker offset = some (Decimal.write offset) := if_neg (by omega)

theorem offsetMarker_ne_empty (offset : Nat) : offsetMarker offset ≠ some "" := by
  intro h
  unfold offsetMarker at h
  by_cases hzero : offset = 0
  · rw [if_pos hzero] at h
    cases h
  · rw [if_neg hzero] at h
    exact Decimal.write_ne_empty offset (Option.some.inj h)

/-- An offset is read back from its marker. -/
theorem index_offsetMarker (what : String) {offset : Nat} (h : offset < Decimal.wordLimit) :
    index what (offsetMarker offset) = .ok offset := by
  unfold offsetMarker
  by_cases hzero : offset = 0
  · rw [if_pos hzero, hzero]
    rfl
  · rw [if_neg hzero]
    simp [index, h]

/-- Only an offset that is a word is read from a marker. -/
theorem index_offsetMarker_ok {what : String} {offset i : Nat}
    (h : index what (offsetMarker offset) = .ok i) : i = offset ∧ offset < Decimal.wordLimit := by
  by_cases hlt : offset < Decimal.wordLimit
  · rw [index_offsetMarker what hlt] at h
    exact ⟨(Except.ok.inj h).symm, hlt⟩
  · have hlimit : Decimal.wordLimit ≤ offset := by omega
    have hpos : 0 < offset := Nat.lt_of_lt_of_le (by decide) hlimit
    rw [offsetMarker_of_pos hpos, index, Decimal.word?_write_of_le hlimit] at h
    cases h

/-- An offset is told by its marker. -/
theorem offsetMarker_injective {offset other : Nat}
    (h : offsetMarker offset = offsetMarker other) : offset = other := by
  unfold offsetMarker at h
  split at h <;> split at h
  · omega
  · cases h
  · cases h
  · exact Decimal.write_injective (Option.some.inj h)

theorem bookmark_offsetMarker_ne (kind : Kind) {offset : Nat} (h : 0 < offset) :
    bookmark kind (offsetMarker offset) ≠ "" := by
  rw [offsetMarker_of_pos h]
  exact bookmark_some_ne kind _

variable {ρ : Type} (all : List ρ) (size : Nat) {offset : Nat}

/-- What is left of a listing is a window and what is left after it. -/
theorem drop_eq_append (offset : Nat) :
    all.drop offset = (all.drop offset).take size ++ all.drop (offset + size) := by
  rw [← List.drop_drop, List.take_append_drop]

/-- The last window holds all that is left. -/
theorem window_last (hlimit : offset < Decimal.wordLimit)
    (hlast : all.length ≤ offset + max size 1) :
    window all (offsetMarker offset) size = .ok (.whole (all.drop offset)) := by
  rw [window, index_offsetMarker "offset" hlimit]
  by_cases hend : all.length ≤ offset
  · simp only [if_pos hend, List.drop_eq_nil_of_le hend]
  · have hstop : min (offset + max size 1) all.length = all.length := by omega
    have htake : (all.drop offset).take (all.length - offset) = all.drop offset :=
      List.take_of_length_le (Nat.le_of_eq List.length_drop)
    simp only [if_neg hend, hstop, htake, Nat.lt_irrefl, if_false, Batch.whole]

/-- A window before the last is followed by the one that starts where it ends. -/
theorem window_more (hlimit : offset < Decimal.wordLimit)
    (hmore : offset + max size 1 < all.length) :
    window all (offsetMarker offset) size =
      .ok ⟨(all.drop offset).take (max size 1), offsetMarker (offset + max size 1)⟩ := by
  have hnot : ¬all.length ≤ offset := by omega
  have hstop : min (offset + max size 1) all.length = offset + max size 1 := by omega
  have hlength : offset + max size 1 - offset = max size 1 := by omega
  have hmarker := offsetMarker_of_pos (show 0 < offset + max size 1 by omega)
  rw [window, index_offsetMarker "offset" hlimit]
  simp only [if_neg hnot, hstop, if_pos hmore, hlength, hmarker]

variable {all size} {marker : Option String} {batch : Batch ρ}

/-- What a window gives: nothing after the end, else a part of the listing and where to go on. -/
theorem window_ok (h : window all marker size = .ok batch) :
    batch = .whole [] ∨ ∃ start stop, batch =
      ⟨(all.drop start).take (stop - start),
        if stop < all.length then some (Decimal.write stop) else none⟩ := by
  unfold window at h
  cases hindex : index "offset" marker with
  | error e =>
    rw [hindex] at h
    cases h
  | ok start =>
    rw [hindex] at h
    by_cases hend : all.length ≤ start
    · simp only [if_pos hend, Except.ok.injEq] at h
      exact .inl h.symm
    · simp only [if_neg hend, Except.ok.injEq] at h
      exact .inr ⟨start, _, h.symm⟩

/-- A window starts at an offset that is a word. -/
theorem offset_lt_of_window (h : window all (offsetMarker offset) size = .ok batch) :
    offset < Decimal.wordLimit := by
  cases hindex : index "offset" (offsetMarker offset) with
  | error e =>
    rw [window, hindex] at h
    cases h
  | ok i => exact (index_offsetMarker_ok hindex).2

theorem mem_of_mem_window (h : window all marker size = .ok batch) :
    ∀ r ∈ batch.records, r ∈ all := by
  intro r hr
  rcases window_ok h with rfl | ⟨start, stop, rfl⟩
  · cases hr
  · exact List.mem_of_mem_drop (List.mem_of_mem_take hr)

theorem window_next_ne_empty (h : window all marker size = .ok batch) :
    batch.next ≠ some "" := by
  intro hnext
  rcases window_ok h with rfl | ⟨start, stop, rfl⟩
  · cases hnext
  · by_cases hmore : stop < all.length
    · simp only [if_pos hmore, Option.some.injEq] at hnext
      exact Decimal.write_ne_empty stop hnext
    · simp only [if_neg hmore] at hnext
      cases hnext

/-- Cutting a mapped listing is cutting the listing, whether or not there is a window. -/
theorem window_map_eq {κ : Type} (f : ρ → κ) (all : List ρ) (marker : Option String)
    (size : Nat) :
    window (all.map f) marker size =
      (window all marker size).map fun batch => ⟨batch.records.map f, batch.next⟩ := by
  unfold window
  cases index "offset" marker with
  | error e => rfl
  | ok start =>
    simp only [List.length_map]
    by_cases hend : all.length ≤ start
    · simp only [if_pos hend]
      rfl
    · simp only [if_neg hend, Except.map, List.map_take, List.map_drop]

/-- The windows of a mapped listing are the mapped windows. -/
theorem window_map {κ : Type} (f : ρ → κ) (h : window all marker size = .ok batch) :
    window (all.map f) marker size = .ok ⟨batch.records.map f, batch.next⟩ := by
  rw [window_map_eq, h]
  rfl

/-- The window of a mapped listing comes from one of the listing. -/
theorem exists_of_window_map {κ : Type} {f : ρ → κ} {mapped : Batch κ}
    (h : window (all.map f) marker size = .ok mapped) :
    ∃ batch, window all marker size = .ok batch ∧
      mapped = ⟨batch.records.map f, batch.next⟩ := by
  rw [window_map_eq] at h
  cases hwindow : window all marker size with
  | error e =>
    rw [hwindow] at h
    cases h
  | ok batch =>
    rw [hwindow] at h
    cases h
    exact ⟨batch, rfl, rfl⟩

end VaultAccess.Paging
