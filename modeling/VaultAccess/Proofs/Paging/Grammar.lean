import VaultAccess.Proofs.Paging.OneStep
import VaultAccess.Proofs.Paging.Readers

/-!
# Texts that are cursors

A text is a cursor if it is base64url of a JSON document that stands for at least one frame, with
blanks around the text or around the document. What a document stands for is said here on its value,
whichever way the value is spelled.
-/
namespace VaultAccess.Paging

open Json Text

variable {bs rest blanks inner : List UInt8} {first : Bool} {fuel : Nat}

/-! ## Frames -/

/-- An object with one kind and at most one marker, an empty one where there is none. Members under
other keys may be anything. -/
def NamedFrame (members : List (List UInt8 × Raw)) (f : Frame) : Prop :=
  ∃ named, Keyed members named ∧
    (∃ v, valuesOf "kind" named = [v] ∧ KindOf v f.kind) ∧
    (valuesOf "marker" named = [] ∧ f.marker = "" ∨
      ∃ v, valuesOf "marker" named = [v] ∧ TextOf v f.marker)

/-- A list of a kind, and of a marker where there is one. -/
def ListedFrame (items : List Raw) (f : Frame) : Prop :=
  (∃ v, items = [v] ∧ KindOf v f.kind ∧ f.marker = "") ∨
    ∃ v w, items = [v, w] ∧ KindOf v f.kind ∧ TextOf w f.marker

/-- A value that stands for a frame. -/
def FrameOf (v : Raw) (f : Frame) : Prop :=
  (∃ members, v = .obj members ∧ NamedFrame members f) ∨
    ∃ items, v = .arr items ∧ ListedFrame items f

/-- What a member makes of the fields of a frame. -/
def FrameTakes (p : PartialFrame) (key : String) (v : Raw) (q : PartialFrame) : Prop :=
  if key = "kind" then p.kind = none ∧ ∃ k, KindOf v k ∧ q = { p with kind := some k }
  else if key = "marker" then p.marker = none ∧ ∃ m, TextOf v m ∧ q = { p with marker := some m }
  else q = p

theorem frameAssembly_means : frameAssembly.Means FrameTakes where
  known {key update} h p q bs rest := by
    simp only [frameAssembly] at h
    unfold FrameTakes
    split at h
    · next hkind =>
      cases h
      simp only [if_pos hkind]
      exact readOnce_eq_ok_iff readKindAhead_reads _ _ _
    next hkind =>
    split at h
    · next hmarker =>
      cases h
      simp only [if_neg hkind, if_pos hmarker]
      exact readOnce_eq_ok_iff (readText_reads _) _ _ _
    · cases h
  unknown {key} h p q v := by
    simp only [frameAssembly] at h
    unfold FrameTakes
    split at h
    · cases h
    next hkind =>
    split at h
    · cases h
    next hmarker => rw [if_neg hkind, if_neg hmarker]

/-- The members of a frame set each of its fields by themselves. -/
theorem runs_frame_iff {named : List (String × Raw)} {p q : PartialFrame} :
    Runs FrameTakes p named q ↔
      Sets KindOf p.kind (valuesOf "kind" named) q.kind ∧
        Sets TextOf p.marker (valuesOf "marker" named) q.marker := by
  induction named generalizing p with
  | nil =>
    obtain ⟨kind, marker⟩ := p
    obtain ⟨kind', marker'⟩ := q
    simp [Runs, Sets, valuesOf]
  | cons m named ih =>
    obtain ⟨key, v⟩ := m
    simp only [Runs, ih]
    by_cases hkind : key = "kind"
    · subst hkind
      rw [valuesOf_cons_self, valuesOf_cons_of_ne (by decide), sets_cons_iff]
      simp only [FrameTakes, if_true]
      constructor
      · rintro ⟨_, ⟨hnone, k, hk, rfl⟩, hsets, hmarker⟩
        exact ⟨⟨hnone, k, hk, hsets⟩, hmarker⟩
      · rintro ⟨⟨hnone, k, hk, hsets⟩, hmarker⟩
        exact ⟨_, ⟨hnone, k, hk, rfl⟩, hsets, hmarker⟩
    by_cases hmarker : key = "marker"
    · subst hmarker
      rw [valuesOf_cons_self, valuesOf_cons_of_ne (by decide), sets_cons_iff]
      simp only [FrameTakes, if_true, if_neg (show ¬ "marker" = "kind" by decide)]
      constructor
      · rintro ⟨_, ⟨hnone, m, hm, rfl⟩, hkind, hsets⟩
        exact ⟨hkind, hnone, m, hm, hsets⟩
      · rintro ⟨hkind, hnone, m, hm, hsets⟩
        exact ⟨_, ⟨hnone, m, hm, rfl⟩, hkind, hsets⟩
    · rw [valuesOf_cons_of_ne hkind, valuesOf_cons_of_ne hmarker]
      simp only [FrameTakes, if_neg hkind, if_neg hmarker]
      constructor
      · rintro ⟨_, rfl, hsets⟩
        exact hsets
      · exact fun hsets => ⟨p, rfl, hsets⟩

/-- From nothing, a field is set by the one value under its key. -/
theorem sets_none_some_iff {α : Type} {Means : Raw → α → Prop} {values : List Raw} {a : α} :
    Sets Means none values (some a) ↔ ∃ v, values = [v] ∧ Means v a := by
  simp [Sets]

theorem sets_none_none_iff {α : Type} {Means : Raw → α → Prop} {values : List Raw} :
    Sets Means none values none ↔ values = [] := by
  simp [Sets]

theorem readNamedFrame_reads : ReadsMembers readNamedFrame NamedFrame := by
  intro bs f rest
  unfold readNamedFrame
  constructor
  · rintro ⟨ahead, h, hend⟩
    obtain ⟨blanks, rfl, hblanks⟩ := endObject_eq_ok_iff.mp hend
    split at h
    · cases h
    · cases h
    next kind marker ahead hread =>
    cases h
    obtain ⟨inner, members, named, rfl, hspells, hkeyed, hruns⟩ :=
      frameAssembly_means.exists_members hread
    obtain ⟨hkind, hmarker⟩ := runs_frame_iff.mp hruns
    refine ⟨inner, blanks, members, rfl, hblanks, hspells, named, hkeyed,
      sets_none_some_iff.mp hkind, ?_⟩
    cases marker with
    | none => exact .inl ⟨sets_none_none_iff.mp hmarker, rfl⟩
    | some m => exact .inr (sets_none_some_iff.mp hmarker)
  · rintro ⟨inner, blanks, members, rfl, hblanks, hspells, named, hkeyed, hkind, hmarker⟩
    refine ⟨blanks ++ 125 :: rest, ?_, endObject_eq_ok_iff.mpr ⟨blanks, rfl, hblanks⟩⟩
    obtain ⟨marker, hsets, hvalue⟩ : ∃ marker,
        Sets TextOf none (valuesOf "marker" named) marker ∧ marker.getD "" = f.marker := by
      rcases hmarker with ⟨hnone, hempty⟩ | hsome
      · exact ⟨none, sets_none_none_iff.mpr hnone, hempty.symm⟩
      · exact ⟨some f.marker, sets_none_some_iff.mpr hsome, rfl⟩
    have hruns : Runs FrameTakes frameAssembly.start named ⟨some f.kind, marker⟩ :=
      runs_frame_iff.mpr ⟨sets_none_some_iff.mpr hkind, hsets⟩
    rw [frameAssembly_means.readMembers_append hspells hkeyed hruns hblanks
      (by simp only [List.length_append]; omega) rest]
    simp only [hvalue]

theorem readListedFrame_reads : ReadsItems readListedFrame ListedFrame := by
  intro bs f rest
  unfold readListedFrame
  constructor
  · rintro ⟨ahead, h, hend⟩
    obtain ⟨blanks, rfl, hblanks⟩ := endList_eq_ok_iff.mp hend
    split at h
    · cases h
    · cases h
    next ahead hnext =>
    split at h
    · cases h
    next kind afterKind hkind =>
    obtain ⟨lead, text, v, rfl, hlead, hspells, hmeans⟩ :=
      readKindAhead_reads.exists_item hnext hkind
    split at h
    · cases h
    · cases h
      exact ⟨_, blanks, [v], by simp, hblanks, .cons hlead hspells .nil, .inl ⟨v, rfl, hmeans, rfl⟩⟩
    next ahead' hnext' =>
    split at h
    · cases h
    next marker afterMarker hmarker =>
    cases h
    obtain ⟨lead', text', w, rfl, hlead', hspells', hmeans'⟩ :=
      (readText_reads _).exists_item hnext' hmarker
    exact ⟨_, blanks, [v, w], by simp, hblanks, .cons hlead hspells (.cons hlead' hspells' .nil),
      .inr ⟨v, w, rfl, hmeans, hmeans'⟩⟩
  · rintro ⟨inner, blanks, items, rfl, hblanks, hinner, hmeans⟩
    refine ⟨blanks ++ 93 :: rest, ?_, endList_eq_ok_iff.mpr ⟨blanks, rfl, hblanks⟩⟩
    have hclose : nextItem false (blanks ++ 93 :: rest) = .ok none :=
      nextItem_eq_none_iff.mpr ⟨blanks, rest, rfl, hblanks⟩
    rcases hmeans with ⟨v, rfl, hkind, hempty⟩ | ⟨v, w, rfl, hkind, hmarker⟩
    · cases hinner with
      | @cons _ lead text inner v items hlead hspells hlater =>
        cases hlater
        obtain ⟨hnext, hread⟩ :=
          readKindAhead_reads.item_append hlead hspells hkind (blanks ++ 93 :: rest)
        simp only [List.append_nil, List.append_assoc, hnext, hread, hclose, ← hempty]
    · cases hinner with
      | @cons _ lead text inner v items hlead hspells hlater =>
        cases hlater with
        | @cons _ lead' text' inner' w items' hlead' hspells' hlater' =>
          cases hlater'
          obtain ⟨hnext, hread⟩ := readKindAhead_reads.item_append hlead hspells hkind
            (lead' ++ (text' ++ (blanks ++ 93 :: rest)))
          obtain ⟨hnext', hread'⟩ := (readText_reads "a string").item_append hlead' hspells' hmarker
            (blanks ++ 93 :: rest)
          simp only [List.append_nil, List.append_assoc, hnext, hread, hnext', hread']

theorem readFrameAhead_reads : Reads readFrameAhead FrameOf :=
  readRecord_reads readNamedFrame_reads readListedFrame_reads _

/-! ## Lists of frames -/

/-- A value that stands for a list of frames. -/
def FramesOf (v : Raw) (frames : List Frame) : Prop :=
  ∃ items, v = .arr items ∧ List.Forall₂ FrameOf items frames

theorem exists_items_of_readFrameItems {frames : List Frame}
    (h : readFrameItems fuel first bs = .ok (frames, rest)) :
    ∃ inner items, bs = inner ++ rest ∧ SpellsItems first inner items ∧
      List.Forall₂ FrameOf items frames := by
  induction fuel generalizing first bs frames with
  | zero => simp [readFrameItems, stopAt] at h
  | succ fuel ih =>
    rw [readFrameItems] at h
    split at h
    · cases h
    · cases h
      exact ⟨[], [], rfl, .nil, .nil⟩
    next ahead hnext =>
    split at h
    · cases h
    next frame afterFrame hframe =>
    obtain ⟨lead, text, v, rfl, hlead, hspells, hmeans⟩ :=
      readFrameAhead_reads.exists_item hnext hframe
    split at h
    · cases h
    next frames' ahead' hlater =>
    cases h
    obtain ⟨inner, items, rfl, hinner, hitems⟩ := ih hlater
    exact ⟨_, v :: items, by simp, .cons hlead hspells hinner, .cons hmeans hitems⟩

theorem readFrameItems_append {items : List Raw} {frames : List Frame}
    (hinner : SpellsItems first inner items) (hmeans : List.Forall₂ FrameOf items frames)
    (hblanks : Blank blanks) (hfuel : inner.length < fuel) (rest : List UInt8) :
    readFrameItems fuel first (inner ++ (blanks ++ 93 :: rest)) =
      .ok (frames, blanks ++ 93 :: rest) := by
  induction fuel generalizing first inner items frames with
  | zero => omega
  | succ fuel ih =>
    cases hinner with
    | nil =>
      cases hmeans
      have hclose : nextItem first (blanks ++ 93 :: rest) = .ok none :=
        nextItem_eq_none_iff.mpr ⟨blanks, rest, rfl, hblanks⟩
      simp [readFrameItems, hclose]
    | @cons _ lead text inner v items hlead hspells hlater =>
      cases hmeans with
      | @cons _ frame _ frames hframe hmeans =>
        obtain ⟨b, tail, htext, -, -⟩ := hspells.head
        simp only [htext, List.length_append, List.length_cons] at hfuel
        have hread := ih hlater hmeans (by omega)
        obtain ⟨hnext, hvalue⟩ := readFrameAhead_reads.item_append hlead hspells hframe
          (inner ++ (blanks ++ 93 :: rest))
        simp only [List.append_assoc]
        rw [readFrameItems, hnext]
        simp only [hvalue, hread]

theorem readFrames_reads : Reads readFrames FramesOf := by
  intro bs frames rest
  unfold readFrames
  constructor
  · intro h
    split at h
    · cases h
    next b tail hskip =>
    obtain ⟨-, blanks, hblanks, rfl⟩ := skipBlank_eq_cons_iff.mp hskip
    split at h
    · next hb =>
      split at h
      · cases h
      next frames' ahead hread =>
      obtain ⟨_, hend, heq⟩ := map_eq_ok_iff.mp h
      cases heq
      obtain ⟨inner, items, rfl, hinner, hmeans⟩ :=
        exists_items_of_readFrameItems (settle_eq_ok_iff.mp hread)
      obtain ⟨gap, rfl, hgap⟩ := endList_eq_ok_iff.mp hend
      exact ⟨blanks, 91 :: (inner ++ (gap ++ [93])), _, by simp [hb], hblanks, .arr hinner hgap,
        items, rfl, hmeans⟩
    · exact absurd h (refuse_ne_ok _ _ _)
  · rintro ⟨blanks, text, v, rfl, hblanks, hspells, items, rfl, hmeans⟩
    cases hspells with
    | @arr inner gap _ hinner hgap =>
      have hend : endList (gap ++ 93 :: rest) = .ok rest :=
        endList_eq_ok_iff.mpr ⟨gap, rfl, hgap⟩
      have hread : settle pastList (readFrameItems ((inner ++ (gap ++ 93 :: rest)).length + 1) true
          (inner ++ (gap ++ 93 :: rest))) = .ok (frames, gap ++ 93 :: rest) :=
        settle_eq_ok_iff.mpr (readFrameItems_append hinner hmeans hgap
          (by simp only [List.length_append]; omega) rest)
      simp only [List.cons_append, List.append_assoc, List.nil_append,
        skipBlank_append_cons (show isBlankByte 91 = false by decide) hblanks, if_true, hread]
      exact map_eq_ok_iff.mpr ⟨rest, hend, rfl⟩

/-! ## Cursors -/

/-- An object with one list of states. Members under other keys may be anything. -/
def NamedCursor (members : List (List UInt8 × Raw)) (c : Cursor) : Prop :=
  ∃ named, Keyed members named ∧ ∃ v, valuesOf "states" named = [v] ∧ FramesOf v c.frames

/-- A list of one item, which is the list of states. -/
def ListedCursor (items : List Raw) (c : Cursor) : Prop := ∃ v, items = [v] ∧ FramesOf v c.frames

/-- A value that stands for a cursor. -/
def CursorOf (v : Raw) (c : Cursor) : Prop :=
  (∃ members, v = .obj members ∧ NamedCursor members c) ∨
    ∃ items, v = .arr items ∧ ListedCursor items c

/-- What a member makes of the field of a cursor. -/
def CursorTakes (p : Option (List Frame)) (key : String) (v : Raw) (q : Option (List Frame)) :
    Prop :=
  if key = "states" then p = none ∧ ∃ frames, FramesOf v frames ∧ q = some frames else q = p

theorem cursorAssembly_means : cursorAssembly.Means CursorTakes where
  known {key update} h p q bs rest := by
    simp only [cursorAssembly] at h
    unfold CursorTakes
    split at h
    · next hstates =>
      cases h
      simp only [if_pos hstates]
      exact readOnce_eq_ok_iff readFrames_reads _ _ _
    · cases h
  unknown {key} h p q v := by
    simp only [cursorAssembly] at h
    unfold CursorTakes
    split at h
    · cases h
    next hstates => rw [if_neg hstates]

theorem runs_cursor_iff {named : List (String × Raw)} {p q : Option (List Frame)} :
    Runs CursorTakes p named q ↔ Sets FramesOf p (valuesOf "states" named) q := by
  induction named generalizing p with
  | nil => simp [Runs, Sets, valuesOf]
  | cons m named ih =>
    obtain ⟨key, v⟩ := m
    simp only [Runs, ih]
    by_cases hstates : key = "states"
    · subst hstates
      rw [valuesOf_cons_self, sets_cons_iff]
      simp only [CursorTakes, if_true]
      constructor
      · rintro ⟨_, ⟨hnone, frames, hframes, rfl⟩, hsets⟩
        exact ⟨hnone, frames, hframes, hsets⟩
      · rintro ⟨hnone, frames, hframes, hsets⟩
        exact ⟨_, ⟨hnone, frames, hframes, rfl⟩, hsets⟩
    · rw [valuesOf_cons_of_ne hstates]
      simp only [CursorTakes, if_neg hstates]
      constructor
      · rintro ⟨_, rfl, hsets⟩
        exact hsets
      · exact fun hsets => ⟨p, rfl, hsets⟩

theorem readNamedCursor_reads : ReadsMembers readNamedCursor NamedCursor := by
  intro bs c rest
  unfold readNamedCursor
  constructor
  · rintro ⟨ahead, h, hend⟩
    obtain ⟨blanks, rfl, hblanks⟩ := endObject_eq_ok_iff.mp hend
    split at h
    · cases h
    · cases h
    next frames ahead hread =>
    cases h
    obtain ⟨inner, members, named, rfl, hspells, hkeyed, hruns⟩ :=
      cursorAssembly_means.exists_members hread
    exact ⟨inner, blanks, members, rfl, hblanks, hspells, named, hkeyed,
      sets_none_some_iff.mp (runs_cursor_iff.mp hruns)⟩
  · rintro ⟨inner, blanks, members, rfl, hblanks, hspells, named, hkeyed, hstates⟩
    refine ⟨blanks ++ 125 :: rest, ?_, endObject_eq_ok_iff.mpr ⟨blanks, rfl, hblanks⟩⟩
    have hruns : Runs CursorTakes cursorAssembly.start named (some c.frames) :=
      runs_cursor_iff.mpr (sets_none_some_iff.mpr hstates)
    rw [cursorAssembly_means.readMembers_append hspells hkeyed hruns hblanks
      (by simp only [List.length_append]; omega) rest]

theorem readListedCursor_reads : ReadsItems readListedCursor ListedCursor := by
  intro bs c rest
  unfold readListedCursor
  constructor
  · rintro ⟨ahead, h, hend⟩
    obtain ⟨blanks, rfl, hblanks⟩ := endList_eq_ok_iff.mp hend
    split at h
    · cases h
    · cases h
    next ahead hnext =>
    split at h
    · cases h
    next frames afterFrames hframes =>
    cases h
    obtain ⟨lead, text, v, rfl, hlead, hspells, hmeans⟩ :=
      readFrames_reads.exists_item hnext hframes
    exact ⟨_, blanks, [v], by simp, hblanks, .cons hlead hspells .nil, v, rfl, hmeans⟩
  · rintro ⟨inner, blanks, items, rfl, hblanks, hinner, v, rfl, hframes⟩
    refine ⟨blanks ++ 93 :: rest, ?_, endList_eq_ok_iff.mpr ⟨blanks, rfl, hblanks⟩⟩
    cases hinner with
    | @cons _ lead text inner v items hlead hspells hlater =>
      cases hlater
      obtain ⟨hnext, hread⟩ :=
        readFrames_reads.item_append hlead hspells hframes (blanks ++ 93 :: rest)
      simp only [List.append_nil, List.append_assoc, hnext, hread]

/-- A JSON text is a cursor if it spells a value that stands for the cursor, and nothing else. -/
theorem ofJsonText_eq_ok_iff {document : List UInt8} {c : Cursor} :
    Cursor.ofJsonText document = .ok c ↔
      ∃ before text after v, document = before ++ (text ++ after) ∧ Blank before ∧ Blank after ∧
        Spells text v ∧ CursorOf v c := by
  have hreads : Reads (readRecord "struct PageStack" readNamedCursor readListedCursor) CursorOf :=
    readRecord_reads readNamedCursor_reads readListedCursor_reads _
  unfold Cursor.ofJsonText
  constructor
  · intro h
    split at h
    · cases h
    · cases h
    next cursor after hread =>
    split at h
    · next hskip =>
      cases h
      obtain ⟨before, text, v, rfl, hbefore, hspells, hmeans⟩ := (hreads _ _ _).mp hread
      exact ⟨before, text, after, v, rfl, hbefore, skipBlank_eq_nil_iff.mp hskip, hspells, hmeans⟩
    · cases h
  · rintro ⟨before, text, after, v, rfl, hbefore, hafter, hspells, hmeans⟩
    rw [(hreads _ c after).mpr ⟨before, text, v, rfl, hbefore, hspells, hmeans⟩]
    simp only [skipBlank_eq_nil_iff.mpr hafter]

/-- The bytes of a text are symbols of base64url exactly if its characters are. -/
theorem encode_eq_encode_iff {text : String} {document : List UInt8} :
    Utf8.encode text = Base64Url.encode document ↔
      text = Percent.ofAscii (Base64Url.encode document) := by
  have hascii : Utf8.encode (Percent.ofAscii (Base64Url.encode document)) =
      Base64Url.encode document :=
    Percent.encode_ofAscii fun b hb => by have := symbol_of_mem_encode hb; omega
  constructor
  · exact fun h => Utf8.encode_injective (h.trans hascii.symm)
  · exact fun h => h ▸ hascii

/-- A text that stands for a cursor: without the blanks around it, it spells in base64url a document
that spells, but for blanks around it, a value which stands for the cursor. -/
def Spelling (text : String) (c : Cursor) : Prop :=
  ∃ symbols document before value after v,
    trim text = Percent.ofAscii symbols ∧ Base64Url.Spells symbols document ∧
      document = before ++ (value ++ after) ∧ Blank before ∧ Blank after ∧ Spells value v ∧
      CursorOf v c

/-- Decoding a cursor accepts exactly its grammar. A text that is not empty is decoded as a cursor,
for any seed, if it stands for that cursor and the cursor has frames; every other such text, among
them one of blanks alone, is refused as a cursor. -/
theorem decode_accepts_grammar {text : String} (hne : text ≠ "") (seed : Kind) :
    (∀ c, Cursor.decode text seed = .ok c ↔ Spelling text c ∧ c.frames ≠ []) ∧
      ((∀ c, ¬ (Spelling text c ∧ c.frames ≠ [])) →
        ∃ reason, Cursor.decode text seed = .error (.cursor reason)) ∧
      (trim text = "" → ∃ reason, Cursor.decode text seed = .error (.cursor reason)) := by
  have hdecode : ∀ c, Cursor.decode text seed = .ok c ↔ Spelling text c ∧ c.frames ≠ [] := by
    intro c
    unfold Cursor.decode
    rw [if_neg hne]
    constructor
    · intro h
      split at h
      · cases h
      next document hbytes =>
      split at h
      · cases h
      next cursor hread =>
      split at h
      · cases h
      next hempty =>
      cases h
      have hsymbols := encode_eq_encode_iff.mp (Base64Url.decode_eq_ok_iff.mp hbytes)
      obtain ⟨before, value, after, v, rfl, hbefore, hafter, hspells, hmeans⟩ :=
        ofJsonText_eq_ok_iff.mp hread
      refine ⟨⟨_, _, before, value, after, v, hsymbols, Base64Url.spells_iff.mpr rfl, rfl, hbefore,
        hafter, hspells, hmeans⟩, fun hframes => hempty ?_⟩
      rw [Cursor.isEmpty, hframes]
      rfl
    · rintro ⟨⟨symbols, document, before, value, after, v, htrim, hsymbols, rfl, hbefore, hafter,
        hspells, hmeans⟩, hframes⟩
      rw [Base64Url.spells_iff.mp hsymbols] at htrim
      have hbytes := Base64Url.decode_eq_ok_iff.mpr (encode_eq_encode_iff.mpr htrim)
      have hread := ofJsonText_eq_ok_iff.mpr
        ⟨before, value, after, v, rfl, hbefore, hafter, hspells, hmeans⟩
      have hfull : ¬ c.isEmpty = true := by
        simpa [Cursor.isEmpty] using hframes
      simp only [hbytes, hread, if_neg hfull]
  have hrefuse : (∀ c, ¬ (Spelling text c ∧ c.frames ≠ [])) →
      ∃ reason, Cursor.decode text seed = .error (.cursor reason) := by
    intro hnone
    cases h : Cursor.decode text seed with
    | ok c => exact absurd ((hdecode c).mp h) (hnone c)
    | error e =>
      obtain ⟨reason, rfl⟩ := exists_cursor_of_decode_error h
      exact ⟨reason, rfl⟩
  refine ⟨hdecode, hrefuse, fun hblank => hrefuse ?_⟩
  rintro c ⟨⟨symbols, document, before, value, after, v, htrim, hsymbols, rfl, -, -, hspells, -⟩, -⟩
  rw [Base64Url.spells_iff.mp hsymbols, hblank] at htrim
  have hnil : (Percent.ofAscii (Base64Url.encode (before ++ (value ++ after)))).toList = [] :=
    congrArg String.toList htrim.symm
  rw [Percent.ofAscii, String.toList_ofList, List.map_eq_nil_iff] at hnil
  have hbytes := Base64Url.decode_encode (before ++ (value ++ after))
  rw [hnil] at hbytes
  obtain ⟨b, tail, rfl, -⟩ := hspells.head
  simpa using Except.ok.inj hbytes

/-- A document whose list of states is under one key of two, and whose frames are a list and an
object in another order with its kind as an object; there are blanks around the text and in the
document. A blank alone is no cursor. -/
theorem decode_accepts_grammar_of_loose :
    let text := "\u3000eyJ4IjpbMS41XSwic3RhdGVzIjpbWyJyb2xlIiwiNyJdLCB7Im1hcmtlciI6IsOpXG4iLCJraW5kIjp7InVzZXIiOm51bGx9fV19IA\n"
    let c : Cursor := ⟨[⟨.role, "7"⟩, ⟨.user, "é\n"⟩]⟩
    text ≠ "" ∧ Cursor.decode text .policy = .ok c ∧ Spelling text c ∧
      ∃ reason, Cursor.decode "\u3000" .policy = .error (.cursor reason) := by
  intro text c
  have hne : text ≠ "" := by decide +kernel
  have hread : Cursor.decode text .policy = .ok c := ok_of_toOption (by decide +kernel)
  exact ⟨hne, hread, (((decode_accepts_grammar hne .policy).1 c).mp hread).1,
    (decode_accepts_grammar (by decide) .policy).2.2 (by decide +kernel)⟩

end VaultAccess.Paging
