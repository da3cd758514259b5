import VaultAccess.Proofs.Paging.Frames

/-!
# One step

A step works on the frame of its kind: the one on top of the cursor that it gets, or a fresh one
above all others. It asks once, at the marker of that frame, and hands on the frames below it as it
found them.
-/
namespace VaultAccess.Paging

variable {kind : Kind} {c : Cursor} {text : String} {ρ α σ : Type}

/-! ## The frame of a kind -/

/-- The frames below that of a kind, which is the top one or is not there. -/
def Cursor.baseFor (c : Cursor) (kind : Kind) : Cursor :=
  if c.top?.map Frame.kind = some kind then c.pop else c

/-- The marker of the frame of a kind: none where it is not the top one or has not begun. -/
def Cursor.markerFor (c : Cursor) (kind : Kind) : Option String :=
  if c.top?.map Frame.kind = some kind then (c.top?.map Frame.marker).filter (· ≠ "") else none

theorem Cursor.eq_pop_push {f : Frame} (h : c.top? = some f) : c = c.pop.push f := by
  obtain ⟨frames⟩ := c
  obtain ⟨below, rfl⟩ := List.getLast?_eq_some_iff.mp h
  simp [Cursor.pop, Cursor.push]

theorem filter_ne_empty_getD (m : String) : ((some m).filter (· ≠ "")).getD "" = m := by
  by_cases h : m = "" <;> simp [Option.filter, h]

theorem filter_ne_empty_of_ne {m : String} (h : m ≠ "") : (some m).filter (· ≠ "") = some m := by
  simp [Option.filter, h]

theorem filter_ne_empty_eq_none_iff {marker : Option String} :
    marker.filter (· ≠ "") = none ↔ marker = none ∨ marker = some "" := by
  cases marker with
  | none => simp
  | some m => by_cases h : m = "" <;> simp [Option.filter, h]

theorem Cursor.markerFor_ne_empty (c : Cursor) (kind : Kind) : c.markerFor kind ≠ some "" := by
  unfold Cursor.markerFor
  split
  · intro h
    simp [Option.filter_eq_some_iff] at h
  · simp

/-- Entering a kind leaves its frame on top of the frames below it. -/
theorem Cursor.enter_eq (c : Cursor) (kind : Kind) :
    c.enter kind = (c.baseFor kind).push ⟨kind, (c.markerFor kind).getD ""⟩ := by
  unfold Cursor.enter Cursor.baseFor Cursor.markerFor
  by_cases h : c.top?.map Frame.kind = some kind
  · obtain ⟨f, htop, rfl⟩ := Option.map_eq_some_iff.mp h
    have hmarker : ((c.top?.map Frame.marker).filter (· ≠ "")).getD "" = f.marker := by
      rw [htop]
      exact filter_ne_empty_getD f.marker
    rw [if_pos h, if_pos h, if_pos h, hmarker]
    exact Cursor.eq_pop_push htop
  · rw [if_neg h, if_neg h, if_neg h]
    rfl

/-! ## What a step does -/

theorem openCursor_of_decode_ok (h : Cursor.decode text kind = .ok c) :
    openCursor text kind = .ok ((c.baseFor kind).push ⟨kind, (c.markerFor kind).getD ""⟩) := by
  rw [openCursor, h, ← Cursor.enter_eq]
  rfl

/-- A page leads to the next marker on the same base, and to the base itself where there is none. -/
theorem turn_push_filter (base : Cursor) (kind : Kind) (m : String) (map : ρ → α)
    (batch : Batch ρ) :
    turn (base.push ⟨kind, m⟩) map batch =
      ⟨batch.records.map map, base.bookmarkOn kind (batch.next.filter (· ≠ ""))⟩ := by
  by_cases h : batch.next = some ""
  · have hfilter : batch.next.filter (· ≠ "") = none := by rw [h]; rfl
    simp only [turn, Cursor.advance, hfilter, Cursor.pop_push, Cursor.bookmarkOn]
  · have hfilter : batch.next.filter (· ≠ "") = batch.next := by
      cases hnext : batch.next with
      | none => rfl
      | some next => simpa [Option.filter, hnext] using h
    rw [turn_push base kind m map h, hfilter]

/-- A step fetches once, at the marker of its frame. -/
theorem listPage_of_decode {m : Type → Type} [Monad m] [MonadExcept Fault m]
    (h : Cursor.decode text kind = .ok c) (fetch : Option String → m (Batch ρ)) (map : ρ → α) :
    listPage text kind fetch map =
      (do
        let batch ← fetch (c.markerFor kind)
        return ⟨batch.records.map map,
          (c.baseFor kind).bookmarkOn kind (batch.next.filter (· ≠ ""))⟩) := by
  rw [listPage_of_open (openCursor_of_decode_ok h) (c.markerFor_ne_empty kind)]
  simp only [turn_push_filter]

/-- A step on a text that is no cursor fetches nothing. -/
theorem listPage_of_decode_error {m : Type → Type} [Monad m] [MonadExcept Fault m] {e : Fault}
    (h : Cursor.decode text kind = .error e) (fetch : Option String → m (Batch ρ)) (map : ρ → α) :
    listPage text kind fetch map = throw e := by
  rw [listPage, openCursor, h]
  rfl

theorem exists_cursor_of_decode_error {seed : Kind} {e : Fault}
    (h : Cursor.decode text seed = .error e) : ∃ reason, e = .cursor reason := by
  unfold Cursor.decode at h
  split at h
  · cases h
  · split at h
    · exact ⟨_, (Except.error.inj h).symm⟩
    · split at h
      · exact ⟨_, (Except.error.inj h).symm⟩
      · split at h
        · exact ⟨_, (Except.error.inj h).symm⟩
        · cases h

theorem Cursor.bookmarkOn_eq_empty_iff {base : Cursor} {marker : Option String} :
    base.bookmarkOn kind marker = "" ↔ base.frames = [] ∧ marker = none := by
  cases marker with
  | none => simp [bookmarkOn, encode_eq_empty_iff]
  | some marker => simp [bookmarkOn, encode_eq_empty_iff, push]

/-! ## Steps whose fetches are counted -/

/-- A fetch whose markers are written down, over a state of its own. -/
def noting (fetch : Option String → σ → Except Fault (Batch ρ) × σ) (marker : Option String) :
    ExceptT Fault (StateM (List (Option String) × σ)) (Batch ρ) :=
  fun (asked, s) => ((fetch marker s).1, asked ++ [marker], (fetch marker s).2)

theorem noting_bind_error {fetch : Option String → σ → Except Fault (Batch ρ) × σ}
    {marker : Option String} {s s' : σ} {e : Fault} (h : fetch marker s = (.error e, s'))
    (next : Batch ρ → ExceptT Fault (StateM (List (Option String) × σ)) α) :
    (noting fetch marker >>= next) ([], s) = (.error e, [marker], s') := by
  simp only [noting, bind, ExceptT.bind, ExceptT.mk, StateT.bind, h]
  rfl

theorem noting_bind_ok {fetch : Option String → σ → Except Fault (Batch ρ) × σ}
    {marker : Option String} {s s' : σ} {batch : Batch ρ} (h : fetch marker s = (.ok batch, s'))
    (next : Batch ρ → ExceptT Fault (StateM (List (Option String) × σ)) α) :
    (noting fetch marker >>= next) ([], s) = next batch ([marker], s') := by
  simp only [noting, bind, ExceptT.bind, ExceptT.mk, StateT.bind, h]
  rfl

/-- One step touches only its own frame. A text that is no cursor fails as its decoding does, and
nothing is fetched. Otherwise the step fetches once, at the marker of the top frame if that is of
the kind and has begun. It fails as the fetch does; else it gives the mapped records in order, and
the next cursor is the base with a frame at the next marker, or the base alone where there is no
next marker or an empty one. The base is the cursor without a top frame of the kind. -/
theorem step_keeps_frames (text : String) (kind : Kind)
    (fetch : Option String → σ → Except Fault (Batch ρ) × σ) (map : ρ → α) (s : σ) :
    (∀ e, Cursor.decode text kind = .error e →
      (∃ reason, e = .cursor reason) ∧
        listPage text kind (noting fetch) map ([], s) = (.error e, [], s)) ∧
    ∀ c, Cursor.decode text kind = .ok c →
      let own := c.top?.map Frame.kind = some kind
      let base : Cursor := if own then c.pop else c
      let marker := if own then (c.top?.map Frame.marker).filter (· ≠ "") else none
      (∀ e s', fetch marker s = (.error e, s') →
        listPage text kind (noting fetch) map ([], s) = (.error e, [marker], s')) ∧
      ∀ records next s', fetch marker s = (.ok ⟨records, next⟩, s') →
        ∃ nextCursor,
          listPage text kind (noting fetch) map ([], s) =
            (.ok ⟨records.map map, nextCursor⟩, [marker], s') ∧
          (∀ m, next = some m → m ≠ "" →
            nextCursor = Cursor.encode ⟨base.frames ++ [⟨kind, m⟩]⟩) ∧
          (next = none ∨ next = some "" → nextCursor = base.encode) ∧
          (nextCursor = "" ↔ base.frames = [] ∧ (next = none ∨ next = some "")) := by
  refine ⟨fun e h => ⟨exists_cursor_of_decode_error h, ?_⟩, fun c h => ?_⟩
  · rw [listPage_of_decode_error h]
    rfl
  extract_lets own base marker
  have hstep := listPage_of_decode h (noting fetch) map
  refine ⟨fun e s' hfetch => ?_, fun records next s' hfetch =>
    ⟨base.bookmarkOn kind (next.filter (· ≠ "")), ?_, ?_, ?_, ?_⟩⟩
  · rw [hstep]
    exact noting_bind_error hfetch _
  · rw [hstep]
    exact noting_bind_ok hfetch _
  · rintro m rfl hne
    rw [filter_ne_empty_of_ne hne]
    rfl
  · rintro (rfl | rfl) <;> rfl
  · rw [Cursor.bookmarkOn_eq_empty_iff, filter_ne_empty_eq_none_iff]

/-- Below a walk of policies, a first step of users asks without a marker and adds a frame; its last
step, which asks at that frame, gives the walk of policies back. What is no cursor fetches nothing. -/
theorem step_keeps_frames_of_nested :
    let outer : Cursor := ⟨[⟨.policy, "3"⟩]⟩
    let inner : Cursor := ⟨[⟨.policy, "3"⟩, ⟨.user, "2"⟩]⟩
    let fetch (marker : Option String) (count : Nat) : Except Fault (Batch Nat) × Nat :=
      (.ok (if marker = none then ⟨[1, 2], some "2"⟩ else ⟨[3], none⟩), count + 1)
    Cursor.decode outer.encode .user = .ok outer ∧ Cursor.decode inner.encode .user = .ok inner ∧
      listPage outer.encode .user (noting fetch) (10 * ·) ([], 0) =
        (.ok ⟨[10, 20], inner.encode⟩, [none], 1) ∧
      listPage inner.encode .user (noting fetch) (10 * ·) ([], 0) =
        (.ok ⟨[30], outer.encode⟩, [some "2"], 1) ∧
      ∃ e, Cursor.decode "%" .user = .error e ∧
        listPage "%" .user (noting fetch) (10 * ·) ([], 0) = (.error e, [], 0) := by
  intro outer inner fetch
  have houter : Cursor.decode outer.encode .user = .ok outer :=
    Cursor.decode_encode (List.cons_ne_nil _ _) .user
  have hinner : Cursor.decode inner.encode .user = .ok inner :=
    Cursor.decode_encode (List.cons_ne_nil _ _) .user
  refine ⟨houter, hinner, ?_, ?_, ?_⟩
  · obtain ⟨_, hpage, hnext, -⟩ :=
      ((step_keeps_frames _ .user fetch (10 * ·) 0).2 outer houter).2 [1, 2] (some "2") 1 rfl
    rw [hpage, hnext "2" rfl (by decide)]
    rfl
  · obtain ⟨_, hpage, -, hnext, -⟩ :=
      ((step_keeps_frames _ .user fetch (10 * ·) 0).2 inner hinner).2 [3] none 1 rfl
    rw [hpage, hnext (.inl rfl)]
    rfl
  · cases hfail : Cursor.decode "%" .user with
    | ok c =>
      have hnone : (Cursor.decode "%" .user).toOption = none := by decide +kernel
      rw [hfail] at hnone
      cases hnone
    | error e => exact ⟨e, rfl, ((step_keeps_frames "%" .user fetch (10 * ·) 0).1 e hfail).2⟩

end VaultAccess.Paging
