import VaultAccess.Paging.Codec
import VaultAccess.Proofs.Json.Lexemes
import VaultAccess.Proofs.Json.Strings
import VaultAccess.Proofs.Text.Base64Url
import VaultAccess.Proofs.Text.Percent

/-!
# Cursors read back

A cursor with at least one frame is read back from its written form, whatever its kinds and
markers are. The reader is followed through the compact JSON text: members, strings, the list of
frames; then through the symbols of base64url.
-/
namespace VaultAccess.Paging

open Json Text.Utf8

/-! ## The written text -/

theorem encodeChar_brace : encodeChar '\x7b' = [123] := by decide

theorem encodeChar_close : encodeChar '\x7d' = [125] := by decide

theorem encodeChar_bracket : encodeChar '[' = [91] := by decide

theorem encodeChar_end : encodeChar ']' = [93] := by decide

theorem encodeChar_comma : encodeChar ',' = [44] := by decide

theorem encodeChar_colon : encodeChar ':' = [58] := by decide

/-- A written string, and what follows it. -/
def stringText (s : String) (after : List UInt8) : List UInt8 := 34 :: (quoted s ++ after)

/-- A key with its colon, and what follows it. -/
def keyText (key : String) (after : List UInt8) : List UInt8 := stringText key (58 :: after)

/-- A frame after its opening brace, and what follows it. -/
def frameText (f : Frame) (after : List UInt8) : List UInt8 :=
  keyText "kind" <| stringText f.kind.name <| 44 :: (keyText "marker" <| stringText f.marker <|
    125 :: after)

/-- The frames after the first and the end of their list, and what follows it. -/
def framesText (fs : List Frame) (after : List UInt8) : List UInt8 :=
  match fs with
  | [] => 93 :: after
  | f :: fs => 44 :: 123 :: frameText f (framesText fs after)

/-- A cursor with a first frame, and what follows it. -/
def cursorText (f : Frame) (fs : List Frame) (after : List UInt8) : List UInt8 :=
  123 :: (keyText "states" <| 91 :: 123 :: frameText f (framesText fs (125 :: after)))

theorem encodeChars_frame (f : Frame) (after : List UInt8) :
    encodeChars f.toJson.compact ++ after = 123 :: frameText f after := by
  simp [Frame.toJson, compact, compactMembers, encodeChars_quote, frameText, keyText, stringText,
    encodeChar_brace, encodeChar_close, encodeChar_comma, encodeChar_colon]

theorem encodeChars_compactItems (fs : List Frame) (after : List UInt8) :
    encodeChars (compactItems (fs.map Frame.toJson)) ++ after = framesText fs after := by
  induction fs with
  | nil => simp [compactItems, framesText, encodeChar_end]
  | cons f fs ih =>
    have hf := encodeChars_frame f (framesText fs after)
    rw [← ih, ← List.append_assoc] at hf
    simp only [List.map_cons, compactItems, List.cons_append, encodeChars_cons, encodeChar_comma,
      encodeChars_append, List.nil_append, hf, framesText, ih]

theorem encodeChars_cursor (f : Frame) (fs : List Frame) :
    encodeChars (Cursor.toJson ⟨f :: fs⟩).compact = cursorText f fs [] := by
  simp [Cursor.toJson, compact, compactMembers, encodeChars_quote, encodeChars_frame,
    encodeChars_compactItems, encodeChar_brace, encodeChar_close, encodeChar_colon,
    encodeChar_bracket, cursorText, keyText, stringText]

/-! ## Reading it -/

theorem readColon_cons (rest : List UInt8) : readColon (58 :: rest) = .ok rest := by
  rw [readColon, skipBlank_cons (by decide)]
  simp

theorem readText_stringText (expected s : String) (after : List UInt8) :
    readText expected (stringText s after) = .ok (s, after) := by
  rw [readText, stringText, skipBlank_cons (by decide)]
  simp [scan]

theorem readKindAhead_stringText (k : Kind) (after : List UInt8) :
    readKindAhead (stringText k.name after) = .ok (k, after) := by
  have h := readText_stringText "variant identifier" k.name after
  rw [stringText] at h
  rw [readKindAhead, stringText, skipBlank_cons (by decide)]
  simp only [if_pos, readKindName, h, Kind.ofName?_name]

theorem readOnce_cons {α σ : Type} (key : String) (set : α → σ) {read : List UInt8 → Reading α}
    {bs rest : List UInt8} {a : α} (h : read bs = .ok (a, rest)) :
    readOnce key none set read (58 :: bs) = .ok (set a, rest) := by
  simp only [readOnce, readColon_cons, h]

/-- The key of a first member. -/
theorem nextKey_first (key : String) (after : List UInt8) :
    nextKey true (keyText key after) = .ok (some (quoted key ++ 58 :: after)) := by
  rw [nextKey, keyText, stringText, skipBlank_cons (by decide)]
  simp

/-- The key of a member after a comma. -/
theorem nextKey_comma (key : String) (after : List UInt8) :
    nextKey false (44 :: keyText key after) = .ok (some (quoted key ++ 58 :: after)) := by
  rw [nextKey, keyText, stringText, skipBlank_cons (by decide)]
  simp only [skipBlank_cons (show isBlankByte 34 = false by decide)]
  simp

theorem nextKey_end (after : List UInt8) : nextKey false (125 :: after) = .ok none := by
  rw [nextKey, skipBlank_cons (by decide)]
  simp

theorem nextItem_first (after : List UInt8) :
    nextItem true (123 :: after) = .ok (some (123 :: after)) := by
  rw [nextItem, skipBlank_cons (by decide)]
  simp

theorem nextItem_comma (after : List UInt8) :
    nextItem false (44 :: 123 :: after) = .ok (some (123 :: after)) := by
  rw [nextItem, skipBlank_cons (by decide)]
  simp only [skipBlank_cons (show isBlankByte 123 = false by decide)]
  simp

theorem nextItem_end (after : List UInt8) : nextItem false (93 :: after) = .ok none := by
  rw [nextItem, skipBlank_cons (by decide)]
  simp

/-- Members are read one by one: `update` reads the value of a key that was found. -/
theorem readMembers_step {σ : Type} {a : Assembly σ} {fuel : Nat} {first : Bool} {state next : σ}
    {bs rest after : List UInt8} {key : String} {update : σ → List UInt8 → Reading σ}
    (hk : nextKey first bs = .ok (some (quoted key ++ rest))) (ha : a.update key = some update)
    (hu : update state rest = .ok (next, after)) :
    readMembers a (fuel + 1) first state bs = readMembers a fuel false next after := by
  rw [readMembers, hk]
  simp only [string_quoted, ha, hu]

theorem readMembers_end {σ : Type} {a : Assembly σ} {fuel : Nat} {state : σ} (after : List UInt8) :
    readMembers a (fuel + 1) false state (125 :: after) = .ok (state, 125 :: after) := by
  rw [readMembers, nextKey_end]

theorem length_le_stringText (s : String) (after : List UInt8) :
    after.length + 2 ≤ (stringText s after).length := by
  simp only [stringText, quoted, List.length_cons, List.length_append, List.length_nil]
  omega

theorem length_le_keyText (key : String) (after : List UInt8) :
    after.length + 3 ≤ (keyText key after).length := by
  have := length_le_stringText key (58 :: after)
  rw [List.length_cons] at this
  exact this

/-- Every frame takes at least one byte. -/
theorem length_le_frameText (f : Frame) (after : List UInt8) :
    after.length + 2 ≤ (frameText f after).length := by
  have h1 := length_le_keyText "kind" (stringText f.kind.name <| 44 :: (keyText "marker" <|
    stringText f.marker <| 125 :: after))
  have h2 := length_le_stringText f.kind.name (44 :: (keyText "marker" <| stringText f.marker <|
    125 :: after))
  have h3 := length_le_keyText "marker" (stringText f.marker <| 125 :: after)
  have h4 := length_le_stringText f.marker (125 :: after)
  simp only [List.length_cons] at h1 h2 h3 h4
  simp only [frameText]
  omega

theorem readNamedFrame_frameText (f : Frame) (after : List UInt8) :
    readNamedFrame (frameText f after) = .ok (f, 125 :: after) := by
  obtain ⟨n, hn⟩ : ∃ n, (frameText f after).length = n + 2 :=
    ⟨(frameText f after).length - 2, by have := length_le_frameText f after; omega⟩
  have hkind := readOnce_cons "kind" (fun k => PartialFrame.mk (some k) none)
    (readKindAhead_stringText f.kind (44 :: (keyText "marker" <| stringText f.marker <|
      125 :: after)))
  have hmarker := readOnce_cons "marker" (fun m => PartialFrame.mk (some f.kind) (some m))
    (readText_stringText "a string" f.marker (125 :: after))
  have hm : readMembers frameAssembly (n + 3) true frameAssembly.start (frameText f after) =
      .ok (⟨some f.kind, some f.marker⟩, 125 :: after) := by
    rw [frameText, readMembers_step (nextKey_first _ _) rfl hkind,
      readMembers_step (nextKey_comma _ _) rfl hmarker, readMembers_end]
  rw [readNamedFrame, hn, hm]
  rfl

theorem endObject_cons (after : List UInt8) : endObject (125 :: after) = .ok after := by
  rw [endObject, skipBlank_cons (by decide)]
  simp

theorem endList_cons (after : List UInt8) : endList (93 :: after) = .ok after := by
  rw [endList, skipBlank_cons (by decide)]
  simp

/-- A record that is written with named members. -/
theorem readRecord_named {α : Type} (name : String) {named : List UInt8 → Reading α}
    (listed : List UInt8 → Reading α) {bs after : List UInt8} {a : α}
    (h : named bs = .ok (a, 125 :: after)) :
    readRecord name named listed (123 :: bs) = .ok (a, after) := by
  rw [readRecord, skipBlank_cons (by decide)]
  simp [h, settle, endObject_cons, Except.map]

theorem readFrameAhead_frameText (f : Frame) (after : List UInt8) :
    readFrameAhead (123 :: frameText f after) = .ok (f, after) :=
  readRecord_named _ _ (readNamedFrame_frameText f after)

/-- The frames after the first are read up to the end of their list. -/
theorem readFrameItems_framesText (fs : List Frame) (after : List UInt8) (fuel : Nat)
    (h : fs.length < fuel) :
    readFrameItems fuel false (framesText fs after) = .ok (fs, 93 :: after) := by
  induction fs generalizing fuel with
  | nil =>
    obtain ⟨n, rfl⟩ : ∃ n, fuel = n + 1 := ⟨fuel - 1, by omega⟩
    rw [framesText, readFrameItems, nextItem_end]
  | cons f fs ih =>
    rw [List.length_cons] at h
    obtain ⟨n, rfl⟩ : ∃ n, fuel = n + 1 := ⟨fuel - 1, by omega⟩
    rw [framesText, readFrameItems, nextItem_comma]
    simp only [readFrameAhead_frameText, ih n (by omega)]

theorem length_le_framesText (fs : List Frame) (after : List UInt8) :
    fs.length ≤ (framesText fs after).length := by
  induction fs with
  | nil => simp
  | cons f fs ih =>
    have := length_le_frameText f (framesText fs after)
    simp only [framesText, List.length_cons]
    omega

theorem readFrames_text (f : Frame) (fs : List Frame) (after : List UInt8) :
    readFrames (91 :: 123 :: frameText f (framesText fs after)) = .ok (f :: fs, after) := by
  have h1 := length_le_frameText f (framesText fs after)
  have h2 := length_le_framesText fs after
  have hi : readFrameItems ((123 :: frameText f (framesText fs after)).length + 1) true
      (123 :: frameText f (framesText fs after)) = .ok (f :: fs, 93 :: after) := by
    rw [readFrameItems, nextItem_first]
    simp only [readFrameAhead_frameText]
    rw [readFrameItems_framesText _ _ _ (by rw [List.length_cons]; omega)]
  rw [readFrames, skipBlank_cons (by decide)]
  simp only [if_pos, hi, settle, endList_cons, Except.map]

theorem readNamedCursor_text (f : Frame) (fs : List Frame) (after : List UInt8) :
    readNamedCursor (keyText "states" <| 91 :: 123 :: frameText f (framesText fs (125 :: after))) =
      .ok (⟨f :: fs⟩, 125 :: after) := by
  have hs := readOnce_cons "states" some (readFrames_text f fs (125 :: after))
  have hlen := length_le_keyText "states" (91 :: 123 :: frameText f (framesText fs (125 :: after)))
  rw [readNamedCursor]
  generalize (keyText "states" <| 91 :: 123 :: frameText f (framesText fs
    (125 :: after))).length = n at hlen
  obtain ⟨m, rfl⟩ : ∃ m, n = m + 1 := ⟨n - 1, by omega⟩
  rw [readMembers_step (nextKey_first _ _) rfl hs, readMembers_end]

/-- A cursor is read back from its JSON text. -/
theorem ofJsonText_text (f : Frame) (fs : List Frame) :
    Cursor.ofJsonText (cursorText f fs []) = .ok ⟨f :: fs⟩ := by
  have h := readRecord_named "struct PageStack" readListedCursor
    (readNamedCursor_text f fs [])
  rw [Cursor.ofJsonText, cursorText, h]
  rfl

/-! ## Through base64url -/

/-- The symbols of a cursor stand in no blank, so nothing is trimmed from them. -/
theorem trim_ofAscii {bs : List UInt8} (h : ∀ b ∈ bs, 0x2D ≤ b.toNat ∧ b.toNat < 0x7B) :
    Text.trim (Text.Percent.ofAscii bs) = Text.Percent.ofAscii bs := by
  rw [Text.trim, Text.Percent.ofAscii, String.toList_ofList, Text.dropEdges_eq_self]
  intro c hc
  obtain ⟨b, hb, rfl⟩ := List.mem_map.mp hc
  obtain ⟨hl, hu⟩ := h b hb
  rw [Text.isBlank, Text.Percent.toNat_ofNat_ascii (by omega)]
  generalize b.toNat = n at *
  simp
  omega

theorem symbol_of_mem_encode {bs : List UInt8} {b : UInt8} (h : b ∈ Text.Base64Url.encode bs) :
    0x2D ≤ b.toNat ∧ b.toNat < 0x7B := by
  obtain ⟨n, hn, rfl⟩ := Text.Base64Url.exists_of_mem_encode h
  exact Text.Base64Url.symbol_range hn

theorem Cursor.encode_cons (f : Frame) (fs : List Frame) :
    Cursor.encode ⟨f :: fs⟩ =
      Text.Percent.ofAscii (Text.Base64Url.encode (cursorText f fs [])) := by
  rw [Cursor.encode, encodeChars_cursor]
  rfl

theorem Cursor.encode_ne_empty (f : Frame) (fs : List Frame) :
    Cursor.encode ⟨f :: fs⟩ ≠ "" := by
  intro h
  have hl := congrArg String.toList h
  rw [Cursor.encode_cons, Text.Percent.ofAscii, String.toList_ofList, cursorText, keyText,
    stringText] at hl
  cases hq : quoted "states" ++ 58 :: 91 :: 123 :: frameText f (framesText fs [125]) with
  | nil => simp at hq
  | cons x xs => simp [hq, Text.Base64Url.encode] at hl

/-- A cursor with frames is read back from its text, for every seed. -/
theorem Cursor.decode_encode {c : Cursor} (h : c.frames ≠ []) (seed : Kind) :
    Cursor.decode c.encode seed = .ok c := by
  obtain ⟨frames⟩ := c
  cases frames with
  | nil => exact absurd rfl h
  | cons f fs =>
    have hs : ∀ b ∈ Text.Base64Url.encode (cursorText f fs []), 0x2D ≤ b.toNat ∧ b.toNat < 0x7B :=
      fun b hb => symbol_of_mem_encode hb
    rw [Cursor.decode, if_neg (Cursor.encode_ne_empty f fs), Cursor.encode_cons, trim_ofAscii hs,
      Text.Percent.encode_ofAscii fun b hb => by have := hs b hb; omega]
    simp only [Text.Base64Url.decode_encode, ofJsonText_text]
    rfl

/-- A written cursor consists of symbols of base64url, without padding. -/
theorem Cursor.isSymbol_of_mem_encode {c : Cursor} {x : Char} (h : x ∈ c.encode.toList) :
    Text.Base64Url.isSymbol x = true := by
  obtain ⟨frames⟩ := c
  cases frames with
  | nil => cases h
  | cons f fs =>
    rw [Cursor.encode_cons, Text.Percent.ofAscii, String.toList_ofList] at h
    obtain ⟨b, hb, rfl⟩ := List.mem_map.mp h
    obtain ⟨n, hn, rfl⟩ := Text.Base64Url.exists_of_mem_encode hb
    exact Text.Base64Url.isSymbol_symbol hn

@[simp] theorem Cursor.encode_empty : Cursor.encode ⟨[]⟩ = "" := rfl

/-- Only the cursor without frames is written as the empty text. -/
theorem Cursor.encode_eq_empty_iff {c : Cursor} : c.encode = "" ↔ c.frames = [] := by
  obtain ⟨frames⟩ := c
  cases frames with
  | nil => simp
  | cons f fs => simp [Cursor.encode_ne_empty f fs]

@[simp] theorem Cursor.decode_empty (seed : Kind) :
    Cursor.decode "" seed = .ok (Cursor.start seed) := by
  rw [Cursor.decode, if_pos rfl]

/-- Cursors survive being written. Only the cursor without frames is written as the empty text;
every other one is written with symbols of base64url alone and read back as it was, whatever its
kinds and markers are and whichever kind the reader seeds. -/
theorem Cursor.round_trip (c : Cursor) :
    (c.encode = "" ↔ c.frames = []) ∧
      (∀ x ∈ c.encode.toList, Text.Base64Url.isSymbol x = true) ∧
      (c.frames ≠ [] → ∀ seed, Cursor.decode c.encode seed = .ok c) :=
  ⟨encode_eq_empty_iff, fun _ hx => isSymbol_of_mem_encode hx, fun h seed => decode_encode h seed⟩

/-- Three nested walks, whose markers hold a quote, a backslash and a line end, nothing, and a
character outside the basic plane. -/
theorem Cursor.round_trip_of_three :
    let c : Cursor := ⟨[⟨.role, "a\"\\\n"⟩, ⟨.policy, ""⟩, ⟨.user, "𝄞"⟩]⟩
    c.frames ≠ [] ∧ c.encode ≠ "" ∧ ∀ seed, Cursor.decode c.encode seed = .ok c := by
  intro c
  obtain ⟨hempty, -, hread⟩ := round_trip c
  have hframes : c.frames ≠ [] := List.cons_ne_nil _ _
  exact ⟨hframes, fun h => hframes (hempty.mp h), hread hframes⟩

end VaultAccess.Paging
