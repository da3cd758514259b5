import VaultAccess.Text.Utf8

/-!
# UTF-8 reads back

The bytes of a text are read back as that text, also with other bytes after them, and no other bytes
are read as a text. So two texts with the same bytes are the same. Texts are in the order of their
bytes.
-/
namespace VaultAccess.Text.Utf8

@[simp] theorem encodeChars_nil : encodeChars [] = [] := rfl

@[simp] theorem encodeChars_cons (c : Char) (cs : List Char) :
    encodeChars (c :: cs) = encodeChar c ++ encodeChars cs := rfl

@[simp] theorem encodeChars_append (cs ds : List Char) :
    encodeChars (cs ++ ds) = encodeChars cs ++ encodeChars ds := by
  simp [encodeChars]

/-- The numbers that characters have: no surrogates, nothing above the last character. -/
theorem toNat_range (c : Char) :
    c.toNat < 0xD800 ∨ (0xDFFF < c.toNat ∧ c.toNat < 0x110000) := by
  have h := c.valid
  simp only [UInt32.isValidChar, Nat.isValidChar] at h
  exact h

theorem toNat_ofNat_of_lt {n : Nat} (h : n < 256) : (UInt8.ofNat n).toNat = n := by
  rw [UInt8.toNat_ofNat']
  omega

theorem isContinuation_iff (b : UInt8) :
    isContinuation b = true ↔ 0x80 ≤ b.toNat ∧ b.toNat ≤ 0xBF := by
  simp [isContinuation, UInt8.le_iff_toNat_le]

theorem isContinuation_tail (n : Nat) : isContinuation (UInt8.ofNat (0x80 + n % 64)) = true := by
  rw [isContinuation_iff, toNat_ofNat_of_lt (by omega)]
  omega

@[simp] theorem low_tail (n : Nat) : low (UInt8.ofNat (0x80 + n % 64)) = n % 64 := by
  rw [low, toNat_ofNat_of_lt (by omega)]
  omega

/-- The second byte is narrowed only after four of the first bytes. -/
theorem mayFollow_of_range {a b : UInt8} (hb : isContinuation b = true)
    (h3 : a.toNat = 0xE0 → 0xA0 ≤ b.toNat) (hd : a.toNat = 0xED → b.toNat ≤ 0x9F)
    (h4 : a.toNat = 0xF0 → 0x90 ≤ b.toNat) (hf : a.toNat = 0xF4 → b.toNat ≤ 0x8F) :
    mayFollow a b = true := by
  have hb' := (isContinuation_iff b).mp hb
  unfold mayFollow
  simp only [beq_iff_eq, ← UInt8.toNat_inj, UInt8.reduceToNat]
  split
  · simp [UInt8.le_iff_toNat_le]; omega
  · split
    · simp [UInt8.le_iff_toNat_le]; omega
    · split
      · simp [UInt8.le_iff_toNat_le]; omega
      · split
        · simp [UInt8.le_iff_toNat_le]; omega
        · exact hb

/-- The bytes that may start a sequence of several bytes. -/
theorem lead_range {a : UInt8} (hl : 0xC2 ≤ a.toNat) (hu : a.toNat ≤ 0xF4) :
    ¬ a < 0x80 ∧ (a < 0xC2 || 0xF4 < a) = false := by
  constructor
  · simp [UInt8.lt_iff_toNat_lt]; omega
  · simp [UInt8.lt_iff_toNat_lt]; omega

theorem first_two {a b : UInt8} (hl : 0xC2 ≤ a.toNat) (hu : a.toNat < 0xE0)
    (hb : isContinuation b = true) (rest : List UInt8) :
    first a (b :: rest) = (.char (Char.ofNat (a.toNat % 32 * 64 + low b)), rest) := by
  have hm : mayFollow a b = true :=
    mayFollow_of_range hb (by omega) (by omega) (by omega) (by omega)
  obtain ⟨h1, h2⟩ := lead_range hl (by omega)
  have h3 : a < 0xE0 := by simp [UInt8.lt_iff_toNat_lt]; omega
  simp [first, hm, h1, h2, h3]

theorem first_three {a b c : UInt8} (hl : 0xE0 ≤ a.toNat) (hu : a.toNat < 0xF0)
    (hb : mayFollow a b = true) (hc : isContinuation c = true) (rest : List UInt8) :
    first a (b :: c :: rest) =
      (.char (Char.ofNat (a.toNat % 16 * 4096 + low b * 64 + low c)), rest) := by
  obtain ⟨h1, h2⟩ := lead_range (a := a) (by omega) (by omega)
  have h3 : ¬ a < 0xE0 := by simp [UInt8.lt_iff_toNat_lt]; omega
  have h4 : a < 0xF0 := by simp [UInt8.lt_iff_toNat_lt]; omega
  simp [first, hb, hc, h1, h2, h3, h4]

theorem first_four {a b c d : UInt8} (hl : 0xF0 ≤ a.toNat) (hu : a.toNat ≤ 0xF4)
    (hb : mayFollow a b = true) (hc : isContinuation c = true) (hd : isContinuation d = true)
    (rest : List UInt8) :
    first a (b :: c :: d :: rest) =
      (.char (Char.ofNat (a.toNat % 8 * 262144 + low b * 4096 + low c * 64 + low d)), rest) := by
  obtain ⟨h1, h2⟩ := lead_range (a := a) (by omega) hu
  have h3 : ¬ a < 0xE0 := by simp [UInt8.lt_iff_toNat_lt]; omega
  have h4 : ¬ a < 0xF0 := by simp [UInt8.lt_iff_toNat_lt]; omega
  simp [first, hb, hc, hd, h1, h2, h3, h4]

/-- A character that is not ASCII is the first piece of its bytes. -/
theorem first_encodeChar_wide (c : Char) (hc : 0x80 ≤ c.toNat) :
    ∃ a r, encodeChar c = a :: r ∧ ∀ rest, first a (r ++ rest) = (.char c, rest) := by
  have hr := toNat_range c
  have hn : ∀ n, n = c.toNat → Char.ofNat n = c := by
    intro n h
    rw [h, Char.ofNat_toNat]
  generalize hk : c.toNat = n at hc hr hn
  simp only [encodeChar, hk]
  rw [if_neg (by omega)]
  by_cases h2 : n < 0x800
  · have ha : (UInt8.ofNat (0xC0 + n / 64)).toNat = 0xC0 + n / 64 :=
      toNat_ofNat_of_lt (by omega)
    rw [if_pos h2]
    refine ⟨_, _, rfl, fun rest => ?_⟩
    rw [List.singleton_append, first_two (by omega) (by omega) (isContinuation_tail n), ha,
      low_tail, hn _ (by omega)]
  by_cases h3 : n < 0x10000
  · have ha : (UInt8.ofNat (0xE0 + n / 4096)).toNat = 0xE0 + n / 4096 :=
      toNat_ofNat_of_lt (by omega)
    have hb : (UInt8.ofNat (0x80 + n / 64 % 64)).toNat = 0x80 + n / 64 % 64 :=
      toNat_ofNat_of_lt (by omega)
    have hm : mayFollow (UInt8.ofNat (0xE0 + n / 4096)) (UInt8.ofNat (0x80 + n / 64 % 64)) :=
      mayFollow_of_range (isContinuation_tail _) (by omega) (by omega) (by omega) (by omega)
    rw [if_neg h2, if_pos h3]
    refine ⟨_, _, rfl, fun rest => ?_⟩
    rw [List.cons_append, List.singleton_append,
      first_three (by omega) (by omega) hm (isContinuation_tail n), ha, low_tail, low_tail,
      hn _ (by omega)]
  · have ha : (UInt8.ofNat (0xF0 + n / 262144)).toNat = 0xF0 + n / 262144 :=
      toNat_ofNat_of_lt (by omega)
    have hb : (UInt8.ofNat (0x80 + n / 4096 % 64)).toNat = 0x80 + n / 4096 % 64 :=
      toNat_ofNat_of_lt (by omega)
    have hm : mayFollow (UInt8.ofNat (0xF0 + n / 262144)) (UInt8.ofNat (0x80 + n / 4096 % 64)) :=
      mayFollow_of_range (isContinuation_tail _) (by omega) (by omega) (by omega) (by omega)
    rw [if_neg h2, if_neg h3]
    refine ⟨_, _, rfl, fun rest => ?_⟩
    rw [List.cons_append, List.cons_append, List.singleton_append,
      first_four (by omega) (by omega) hm (isContinuation_tail _) (isContinuation_tail n), ha,
      low_tail, low_tail, low_tail, hn _ (by omega)]

theorem encodeChar_ascii {c : Char} (hc : c.toNat < 0x80) :
    encodeChar c = [UInt8.ofNat c.toNat] := by
  rw [encodeChar, if_pos hc]

/-- A character is the first piece of its bytes. -/
theorem first_encodeChar (c : Char) :
    ∃ a r, encodeChar c = a :: r ∧ ∀ rest, first a (r ++ rest) = (.char c, rest) := by
  by_cases hc : c.toNat < 0x80
  · have ha : (UInt8.ofNat c.toNat).toNat = c.toNat := toNat_ofNat_of_lt (by omega)
    refine ⟨_, _, encodeChar_ascii hc, fun rest => ?_⟩
    have hlt : UInt8.ofNat c.toNat < 0x80 := by
      rw [UInt8.lt_iff_toNat_lt, ha]
      exact hc
    simp [first, hlt, ha]
  · exact first_encodeChar_wide c (by omega)

theorem decodeFrom_encodeChar (start : Nat) (before : List Char) (c : Char) (rest : List UInt8) :
    decodeFrom start before (encodeChar c ++ rest) =
      decodeFrom (start + (encodeChar c).length) (c :: before) rest := by
  obtain ⟨a, r, he, hf⟩ := first_encodeChar c
  rw [he, List.cons_append, decodeFrom]
  split
  · next hc =>
    rw [hf] at hc
    simp only [Prod.mk.injEq, Piece.char.injEq] at hc
    rw [← hc.1, ← hc.2, he]
  · next hc => rw [hf] at hc; simp at hc
  · next hc => rw [hf] at hc; simp at hc

theorem decodeFrom_encodeChars (start : Nat) (before cs : List Char) :
    decodeFrom start before (encodeChars cs) = .ok (before.reverse ++ cs) := by
  induction cs generalizing start before with
  | nil => simp [decodeFrom]
  | cons c cs ih =>
    rw [encodeChars_cons, decodeFrom_encodeChar, ih]
    simp

/-- A text is read back from its bytes. -/
@[simp] theorem decode_encode (s : String) : decode (encode s) = .ok s := by
  have h := decodeFrom_encodeChars 0 [] s.toList
  simp only [List.reverse_nil, List.nil_append] at h
  simp [decode, decodeChars, encode, h]

theorem encode_injective {s t : String} (h : encode s = encode t) : s = t := by
  have hs := decode_encode s
  rw [h, decode_encode] at hs
  exact (Except.ok.inj hs).symm

/-- The bytes of ASCII characters are their numbers. -/
theorem encodeChars_ascii {cs : List Char} (h : ∀ c ∈ cs, c.toNat < 0x80) :
    encodeChars cs = cs.map fun c => UInt8.ofNat c.toNat := by
  induction cs with
  | nil => rfl
  | cons c cs ih =>
    rw [encodeChars_cons, encodeChar_ascii (h c (by simp)), ih fun d hd => h d (by simp [hd])]
    rfl

/-! ## Characters read back -/

theorem toNat_ofNat_of_valid {n : Nat} (h : n < 0xD800 ∨ 0xDFFF < n ∧ n < 0x110000) :
    (Char.ofNat n).toNat = n := by
  have hvalid : n.isValidChar := h
  rw [Char.ofNat, dif_pos hvalid]
  rfl

theorem ofNat_eq_of_toNat {b : UInt8} {n : Nat} (h : n = b.toNat) : UInt8.ofNat n = b := by
  rw [h, UInt8.ofNat_toNat]

/-- What may follow a first byte is a continuation, narrowed after four of the first bytes. -/
theorem range_of_mayFollow {a b : UInt8} (h : mayFollow a b = true) :
    (0x80 ≤ b.toNat ∧ b.toNat ≤ 0xBF) ∧ (a.toNat = 0xE0 → 0xA0 ≤ b.toNat) ∧
      (a.toNat = 0xED → b.toNat ≤ 0x9F) ∧ (a.toNat = 0xF0 → 0x90 ≤ b.toNat) ∧
      (a.toNat = 0xF4 → b.toNat ≤ 0x8F) := by
  unfold mayFollow at h
  simp only [beq_iff_eq, ← UInt8.toNat_inj, UInt8.reduceToNat] at h
  split at h
  · simp [UInt8.le_iff_toNat_le] at h; omega
  · split at h
    · simp [UInt8.le_iff_toNat_le] at h; omega
    · split at h
      · simp [UInt8.le_iff_toNat_le] at h; omega
      · split at h
        · simp [UInt8.le_iff_toNat_le] at h; omega
        · rw [isContinuation_iff] at h
          omega

/-- Two bytes are those of the character that they stand for. -/
theorem encodeChar_two {a b : UInt8} (ha : 0xC2 ≤ a.toNat ∧ a.toNat < 0xE0)
    (hb : 0x80 ≤ b.toNat ∧ b.toNat ≤ 0xBF) :
    encodeChar (Char.ofNat (a.toNat % 32 * 64 + low b)) = [a, b] := by
  unfold encodeChar low
  dsimp only
  rw [toNat_ofNat_of_valid (by omega), if_neg (by omega), if_pos (by omega),
    ofNat_eq_of_toNat (b := a) (by omega), ofNat_eq_of_toNat (b := b) (by omega)]

/-- Three bytes are those of the character that they stand for. -/
theorem encodeChar_three {a b c : UInt8} (ha : 0xE0 ≤ a.toNat ∧ a.toNat < 0xF0)
    (hb : mayFollow a b = true) (hc : 0x80 ≤ c.toNat ∧ c.toNat ≤ 0xBF) :
    encodeChar (Char.ofNat (a.toNat % 16 * 4096 + low b * 64 + low c)) = [a, b, c] := by
  obtain ⟨hb, hb3, hbd, -, -⟩ := range_of_mayFollow hb
  unfold encodeChar low
  dsimp only
  rw [toNat_ofNat_of_valid (by omega), if_neg (by omega), if_neg (by omega), if_pos (by omega),
    ofNat_eq_of_toNat (b := a) (by omega), ofNat_eq_of_toNat (b := b) (by omega),
    ofNat_eq_of_toNat (b := c) (by omega)]

/-- Four bytes are those of the character that they stand for. -/
theorem encodeChar_four {a b c d : UInt8} (ha : 0xF0 ≤ a.toNat ∧ a.toNat ≤ 0xF4)
    (hb : mayFollow a b = true) (hc : 0x80 ≤ c.toNat ∧ c.toNat ≤ 0xBF)
    (hd : 0x80 ≤ d.toNat ∧ d.toNat ≤ 0xBF) :
    encodeChar (Char.ofNat (a.toNat % 8 * 262144 + low b * 4096 + low c * 64 + low d)) =
      [a, b, c, d] := by
  obtain ⟨hb, -, -, hb4, hbf⟩ := range_of_mayFollow hb
  unfold encodeChar low
  dsimp only
  rw [toNat_ofNat_of_valid (by omega), if_neg (by omega), if_neg (by omega), if_neg (by omega),
    ofNat_eq_of_toNat (b := a) (by omega), ofNat_eq_of_toNat (b := b) (by omega),
    ofNat_eq_of_toNat (b := c) (by omega), ofNat_eq_of_toNat (b := d) (by omega)]

/-- The first piece of bytes, where it is a character, takes that character's bytes. -/
theorem eq_encodeChar_of_first {a : UInt8} {r rest : List UInt8} {c : Char}
    (h : first a r = (.char c, rest)) : a :: r = encodeChar c ++ rest := by
  unfold first at h
  simp only [UInt8.lt_iff_toNat_lt, UInt8.reduceToNat, Bool.or_eq_true, decide_eq_true_eq,
    Bool.not_eq_true'] at h
  split at h
  · next hascii =>
    simp only [Prod.mk.injEq, Piece.char.injEq] at h
    obtain ⟨rfl, rfl⟩ := h
    have hn := toNat_ofNat_of_valid (n := a.toNat) (by omega)
    rw [encodeChar_ascii (by omega), hn, UInt8.ofNat_toNat]
    rfl
  next hwide =>
  split at h
  · simp at h
  next hlead =>
  split at h
  · simp at h
  next b r₁ =>
  split at h
  · simp at h
  next hfollow =>
  have hb : mayFollow a b = true := by simpa using hfollow
  split at h
  · simp only [Prod.mk.injEq, Piece.char.injEq] at h
    obtain ⟨rfl, rfl⟩ := h
    rw [encodeChar_two (by omega) (range_of_mayFollow hb).1]
    rfl
  next htwo =>
  split at h
  · simp at h
  next c₁ r₂ =>
  split at h
  · simp at h
  next hthird =>
  have hc := (isContinuation_iff c₁).mp (by simpa using hthird)
  split at h
  · simp only [Prod.mk.injEq, Piece.char.injEq] at h
    obtain ⟨rfl, rfl⟩ := h
    rw [encodeChar_three (by omega) hb hc]
    rfl
  next hthree =>
  split at h
  · simp at h
  next d r₃ =>
  split at h
  · simp at h
  next hfourth =>
  have hd := (isContinuation_iff d).mp (by simpa using hfourth)
  simp only [Prod.mk.injEq, Piece.char.injEq] at h
  obtain ⟨rfl, rfl⟩ := h
  rw [encodeChar_four (by omega) hb hc hd]
  rfl

theorem eq_encodeChars_of_decodeFrom {start : Nat} {before cs : List Char} {bs : List UInt8}
    (h : decodeFrom start before bs = .ok cs) :
    ∃ ds, cs = before.reverse ++ ds ∧ bs = encodeChars ds := by
  fun_induction decodeFrom start before bs with
  | case1 start before => exact ⟨[], by simpa using (Except.ok.inj h).symm, rfl⟩
  | case2 start before a r c rest hfirst ih =>
    obtain ⟨ds, rfl, rfl⟩ := ih h
    exact ⟨c :: ds, by simp, by rw [eq_encodeChar_of_first hfirst, encodeChars_cons]⟩
  | case3 => cases h
  | case4 => cases h

/-- Bytes are read as a text exactly if they are the bytes of that text. -/
theorem decode_eq_ok_iff {bs : List UInt8} {s : String} : decode bs = .ok s ↔ bs = encode s := by
  refine ⟨fun h => ?_, fun h => by rw [h, decode_encode]⟩
  unfold decode at h
  split at h
  · next cs hcs =>
    obtain ⟨ds, hds, rfl⟩ := eq_encodeChars_of_decodeFrom hcs
    obtain rfl : cs = ds := by simpa using hds
    rw [← Except.ok.inj h, encode, String.toList_ofList]
  · cases h

/-! ## Order -/

/-- Bytes of one range are in the order of their digits; what follows decides between equal ones. -/
theorem ofNat_cons_lt {k n m : Nat} {bs cs : List UInt8} (hm : k + m < 256)
    (h : n < m ∨ n = m ∧ bs < cs) : UInt8.ofNat (k + n) :: bs < UInt8.ofNat (k + m) :: cs := by
  rw [List.cons_lt_cons_iff]
  rcases h with hlt | ⟨rfl, hrest⟩
  · left
    rw [UInt8.lt_iff_toNat_lt, toNat_ofNat_of_lt hm, toNat_ofNat_of_lt (by omega)]
    omega
  · exact .inr ⟨rfl, hrest⟩

/-- A byte of a lower range comes first. -/
theorem ofNat_cons_lt_of_lt {n m : Nat} (h : n < m) (hm : m < 256) (bs cs : List UInt8) :
    UInt8.ofNat n :: bs < UInt8.ofNat m :: cs := by
  rw [List.cons_lt_cons_iff, UInt8.lt_iff_toNat_lt, toNat_ofNat_of_lt hm,
    toNat_ofNat_of_lt (by omega)]
  exact .inl h

/-- The bytes of a smaller character come first, whatever follows them: a longer sequence has a
larger first byte, and among sequences of one length the digits in base 64 decide. -/
theorem encodeChar_append_lt {c d : Char} (h : c < d) (bs cs : List UInt8) :
    encodeChar c ++ bs < encodeChar d ++ cs := by
  have hd := toNat_range d
  have hlt : c.toNat < d.toNat := h
  unfold encodeChar
  generalize c.toNat = n at hlt ⊢
  generalize d.toNat = m at hlt hd ⊢
  by_cases h1 : n < 0x80
  · simp only [if_pos h1, List.cons_append, List.nil_append]
    repeat' split
    all_goals exact ofNat_cons_lt_of_lt (by omega) (by omega) _ _
  by_cases h2 : n < 0x800
  · simp only [if_neg h1, if_pos h2, if_neg (show ¬m < 0x80 by omega), List.cons_append,
      List.nil_append]
    by_cases hm2 : m < 0x800
    · have hdigits : n / 64 < m / 64 ∨ n / 64 = m / 64 ∧ n % 64 < m % 64 := by omega
      rw [if_pos hm2]
      exact ofNat_cons_lt (by omega) (hdigits.imp_right <| And.imp_right fun hlast =>
        ofNat_cons_lt (by omega) (.inl hlast))
    · rw [if_neg hm2]
      split <;> exact ofNat_cons_lt_of_lt (by omega) (by omega) _ _
  by_cases h3 : n < 0x10000
  · simp only [if_neg h1, if_neg h2, if_pos h3, if_neg (show ¬m < 0x80 by omega),
      if_neg (show ¬m < 0x800 by omega), List.cons_append, List.nil_append]
    by_cases hm3 : m < 0x10000
    · have hdigits : n / 4096 < m / 4096 ∨ n / 4096 = m / 4096 ∧
          (n / 64 % 64 < m / 64 % 64 ∨ n / 64 % 64 = m / 64 % 64 ∧ n % 64 < m % 64) := by omega
      rw [if_pos hm3]
      exact ofNat_cons_lt (by omega) (hdigits.imp_right <| And.imp_right fun hsecond =>
        ofNat_cons_lt (by omega) (hsecond.imp_right <| And.imp_right fun hlast =>
          ofNat_cons_lt (by omega) (.inl hlast)))
    · rw [if_neg hm3]
      exact ofNat_cons_lt_of_lt (by omega) (by omega) _ _
  · have hdigits : n / 262144 < m / 262144 ∨ n / 262144 = m / 262144 ∧
        (n / 4096 % 64 < m / 4096 % 64 ∨ n / 4096 % 64 = m / 4096 % 64 ∧
          (n / 64 % 64 < m / 64 % 64 ∨ n / 64 % 64 = m / 64 % 64 ∧ n % 64 < m % 64)) := by
      omega
    simp only [if_neg h1, if_neg h2, if_neg h3, if_neg (show ¬m < 0x80 by omega),
      if_neg (show ¬m < 0x800 by omega), if_neg (show ¬m < 0x10000 by omega), List.cons_append,
      List.nil_append]
    exact ofNat_cons_lt (by omega) (hdigits.imp_right <| And.imp_right fun hsecond =>
      ofNat_cons_lt (by omega) (hsecond.imp_right <| And.imp_right fun hthird =>
        ofNat_cons_lt (by omega) (hthird.imp_right <| And.imp_right fun hlast =>
          ofNat_cons_lt (by omega) (.inl hlast))))

theorem encodeChars_lt {cs ds : List Char} (h : cs < ds) : encodeChars cs < encodeChars ds := by
  induction h with
  | @nil d ds =>
    obtain ⟨a, r, hd, -⟩ := first_encodeChar d
    rw [encodeChars_cons, hd]
    exact List.nil_lt_cons _ _
  | rel hlt => exact encodeChar_append_lt hlt _ _
  | cons _ ih => exact List.append_left_lt ih

/-- Texts are in the order of their bytes. -/
theorem encode_lt {s t : String} (h : s < t) : encode s < encode t := encodeChars_lt h

end VaultAccess.Text.Utf8
