import VaultAccess.Paging.Step
import VaultAccess.Proofs.Paging.Codec

/-!
# Frames on top of frames

The walk of a kind works on a frame of its own, on top of whatever frames the cursor brings. It
leaves those below as they are, and gives them back when it is at its end.
-/
namespace VaultAccess.Paging

variable {kind : Kind} {base : Cursor} {marker : Option String}

/-- A cursor is told by its text. -/
theorem Cursor.encode_injective {c other : Cursor} (h : c.encode = other.encode) : c = other := by
  by_cases hempty : c.frames = []
  · have hother : other.frames = [] :=
      encode_eq_empty_iff.mp (h.symm.trans (encode_eq_empty_iff.mpr hempty))
    obtain ⟨frames⟩ := c
    obtain ⟨others⟩ := other
    exact congrArg Cursor.mk (hempty.trans hother.symm)
  · have hother : other.frames ≠ [] := fun hnone =>
      hempty (encode_eq_empty_iff.mp (h.trans (encode_eq_empty_iff.mpr hnone)))
    have hread := decode_encode hempty .user
    rw [h, decode_encode hother] at hread
    exact (Except.ok.inj hread).symm

/-- The text with which a walk over a base goes on at a marker. Without a marker the walk has not
begun, or is at its end, and has no frame. -/
def Cursor.bookmarkOn (base : Cursor) (kind : Kind) : Option String → String
  | none => base.encode
  | some marker => (base.push ⟨kind, marker⟩).encode

theorem Cursor.bookmarkOn_some_ne (base : Cursor) (kind : Kind) (marker : String) :
    base.bookmarkOn kind (some marker) ≠ base.encode := by
  intro h
  have hframes := congrArg (fun c : Cursor => c.frames.length) (encode_injective h)
  simp [push] at hframes

/-- The text of a walk under way is read back as the base with a frame of the walk. -/
theorem Cursor.decode_bookmarkOn (base : Cursor) (kind : Kind) (marker : String) (seed : Kind) :
    decode (base.bookmarkOn kind (some marker)) seed = .ok (base.push ⟨kind, marker⟩) :=
  decode_encode (by simp [push]) seed

/-! ## Opening -/

/-- A call on a cursor whose top frame is of another kind begins its walk. -/
theorem openCursor_of_decode {text : String} (hbase : base.top?.map Frame.kind ≠ some kind)
    (h : Cursor.decode text kind = .ok base) :
    openCursor text kind = .ok (base.push ⟨kind, ""⟩) := by
  rw [openCursor, h, Except.map, Cursor.enter, if_neg hbase]
  rfl

/-- A call on a cursor whose top frame is of its kind goes on with its walk. -/
theorem openCursor_of_decode_push {text : String} {m : String}
    (h : Cursor.decode text kind = .ok (base.push ⟨kind, m⟩)) :
    openCursor text kind = .ok (base.push ⟨kind, m⟩) := by
  have htop : (base.push ⟨kind, m⟩).top?.map Frame.kind = some kind := by simp
  rw [openCursor, h, Except.map, Cursor.enter, if_pos htop]

/-- The text of a walk opens its frame. -/
theorem openCursor_bookmarkOn (hbase : base.top?.map Frame.kind ≠ some kind)
    (marker : Option String) :
    openCursor (base.bookmarkOn kind marker) kind = .ok (base.push ⟨kind, marker.getD ""⟩) := by
  cases marker with
  | none =>
    by_cases hempty : base.frames = []
    · obtain rfl : base = .empty := congrArg Cursor.mk hempty
      exact openCursor_of_decode_push (Cursor.decode_empty kind)
    · exact openCursor_of_decode hbase (Cursor.decode_encode hempty kind)
  | some m => exact openCursor_of_decode_push (Cursor.decode_bookmarkOn base kind m kind)

/-! ## One step -/

theorem marker?_getD (kind : Kind) {marker : Option String} (h : marker ≠ some "") :
    Frame.marker? ⟨kind, marker.getD ""⟩ = marker := by
  cases marker with
  | none => rfl
  | some marker =>
    have hne : marker ≠ "" := fun heq => h (congrArg some heq)
    simp [Frame.marker?, hne]

/-- A step fetches the batch at the marker of its frame. -/
theorem listPage_of_open {m : Type → Type} [Monad m] [MonadExcept Fault m] {ρ α : Type}
    {text : String} (hopen : openCursor text kind = .ok (base.push ⟨kind, marker.getD ""⟩))
    (h : marker ≠ some "") (fetch : Option String → m (Batch ρ)) (map : ρ → α) :
    listPage text kind fetch map =
      (do
        let batch ← fetch marker
        return turn (base.push ⟨kind, marker.getD ""⟩) map batch) := by
  have hmarker := marker?_getD kind h
  rw [listPage, hopen]
  simp only [Cursor.top?_push, Option.bind_some, hmarker]

/-- The page of a batch leads to the batch's next marker, on the same base. -/
theorem turn_push {ρ α : Type} (base : Cursor) (kind : Kind) (m : String) (map : ρ → α)
    {batch : Batch ρ} (h : batch.next ≠ some "") :
    turn (base.push ⟨kind, m⟩) map batch =
      ⟨batch.records.map map, base.bookmarkOn kind batch.next⟩ := by
  obtain ⟨records, next⟩ := batch
  cases next with
  | none => simp [turn, Cursor.advance, Cursor.bookmarkOn]
  | some next =>
    have hne : next ≠ "" := fun heq => h (congrArg some heq)
    have hfilter : (some next).filter (· ≠ "") = some next := by simp [Option.filter, hne]
    simp only [turn, Cursor.advance, hfilter, Cursor.top?_push, Cursor.pop_push]
    rfl

end VaultAccess.Paging
