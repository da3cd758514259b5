import VaultAccess.Proofs.Text.Utf8
import VaultAccess.Text.Percent

/-!
# Percent-encoding reads back

The segment of a name consists of plain characters and escapes, and is read back as that name. So
different names have different segments. Other forms are read too: each byte of theirs that is not
part of an escape stands for itself.
-/
namespace VaultAccess.Text.Percent

@[simp] theorem hexValue?_hexDigit {n : Nat} (h : n < 16) : hexValue? (hexDigit n) = some n := by
  decide +revert

theorem hexDigit_ascii {n : Nat} (h : n < 16) : (hexDigit n).toNat < 128 := by
  decide +revert

theorem isPlain_range {b : UInt8} (h : isPlain b) : b.toNat < 128 ∧ b ≠ 37 := by
  constructor
  · simp only [isPlain, Bool.or_eq_true, Bool.and_eq_true, decide_eq_true_eq, beq_iff_eq,
      UInt8.le_iff_toNat_le, ← UInt8.toNat_inj, UInt8.reduceToNat] at h
    omega
  · rintro rfl
    simp [isPlain] at h

theorem decodeBytes_escape (b : UInt8) (rest : List UInt8) :
    decodeBytes (escape b ++ rest) = b :: decodeBytes rest := by
  have hb := b.toNat_lt
  have he : 16 * (b.toNat / 16) + b.toNat % 16 = b.toNat := by omega
  simp only [escape, List.cons_append, List.nil_append, decodeBytes,
    hexValue?_hexDigit (show b.toNat / 16 < 16 by omega),
    hexValue?_hexDigit (show b.toNat % 16 < 16 by omega), he, UInt8.ofNat_toNat]

theorem decodeBytes_cons_of_ne {b : UInt8} (h : b ≠ 37) (rest : List UInt8) :
    decodeBytes (b :: rest) = b :: decodeBytes rest := by
  rw [decodeBytes]
  rintro x y tail rfl
  exact absurd rfl h

/-- Bytes are read back from their written form. -/
@[simp] theorem decodeBytes_encodeBytes (bs : List UInt8) : decodeBytes (encodeBytes bs) = bs := by
  induction bs with
  | nil => rfl
  | cons b bs ih =>
    have hs : encodeBytes (b :: bs) = (if isPlain b then [b] else escape b) ++ encodeBytes bs :=
      rfl
    rw [hs]
    by_cases hp : isPlain b
    · rw [if_pos hp, List.singleton_append, decodeBytes_cons_of_ne (isPlain_range hp).2, ih]
    · rw [if_neg hp, decodeBytes_escape, ih]

/-- The written form of bytes is ASCII. -/
theorem ascii_of_mem_encodeBytes {bs : List UInt8} {x : UInt8} (h : x ∈ encodeBytes bs) :
    x.toNat < 128 := by
  simp only [encodeBytes, List.mem_flatMap] at h
  obtain ⟨b, -, hx⟩ := h
  by_cases hp : isPlain b
  · rw [if_pos hp, List.mem_singleton] at hx
    rw [hx]
    exact (isPlain_range hp).1
  · have hb := b.toNat_lt
    rw [if_neg hp, escape] at hx
    simp only [List.mem_cons, List.not_mem_nil, or_false] at hx
    rcases hx with rfl | rfl | rfl
    · decide
    · exact hexDigit_ascii (by omega)
    · exact hexDigit_ascii (by omega)

theorem toNat_ofNat_ascii {n : Nat} (h : n < 128) : (Char.ofNat n).toNat = n := by
  decide +revert

/-- ASCII bytes are the bytes of the text that shows them. -/
theorem encode_ofAscii {bs : List UInt8} (h : ∀ b ∈ bs, b.toNat < 128) :
    Utf8.encode (ofAscii bs) = bs := by
  rw [Utf8.encode, ofAscii, String.toList_ofList, Utf8.encodeChars_ascii]
  · rw [List.map_map]
    calc bs.map ((fun c => UInt8.ofNat c.toNat) ∘ fun b => Char.ofNat b.toNat)
      _ = bs.map id := List.map_congr_left fun b hb => by
          simp [toNat_ofNat_ascii (h b hb)]
      _ = bs := List.map_id bs
  · intro c hc
    obtain ⟨b, hb, rfl⟩ := List.mem_map.mp hc
    rw [toNat_ofNat_ascii (h b hb)]
    exact h b hb

/-- A name is read back from its segment. -/
@[simp] theorem decode_encode (name : String) : decode (encode name) = .ok name := by
  have he : Utf8.encode (encode name) = encodeBytes (Utf8.encode name) :=
    encode_ofAscii fun b hb => ascii_of_mem_encodeBytes hb
  rw [decode, he, decodeBytes_encodeBytes, Utf8.decode_encode]

theorem encode_injective {m n : String} (h : encode m = encode n) : m = n := by
  have hm := decode_encode m
  rw [h, decode_encode] at hm
  exact (Except.ok.inj hm).symm

/-! ## What a written form stands for -/

/-- Bytes that begin with an escape: the sign and two digits of either case. -/
def OpensEscape (bs : List UInt8) : Prop :=
  ∃ x y rest h l, bs = 37 :: x :: y :: rest ∧ hexValue? x = some h ∧ hexValue? y = some l

/-- The bytes that a written form stands for: an escape for the byte of its digits, and every other
byte for itself, a sign that opens no escape among them. -/
inductive StandsFor : List UInt8 → List UInt8 → Prop
  | nil : StandsFor [] []
  | escape {x y : UInt8} {h l : Nat} {cs bs : List UInt8} (hx : hexValue? x = some h)
      (hy : hexValue? y = some l) (hrest : StandsFor cs bs) :
      StandsFor (37 :: x :: y :: cs) (UInt8.ofNat (16 * h + l) :: bs)
  | plain {b : UInt8} {cs bs : List UInt8} (hb : ¬OpensEscape (b :: cs))
      (hrest : StandsFor cs bs) : StandsFor (b :: cs) (b :: bs)

theorem decodeBytes_of_not_opensEscape {b : UInt8} {cs : List UInt8}
    (hb : ¬OpensEscape (b :: cs)) : decodeBytes (b :: cs) = b :: decodeBytes cs := by
  rw [decodeBytes.eq_def]
  split
  · next heq => cases heq
  · next x y rest heq =>
    obtain ⟨rfl, rfl⟩ := List.cons.inj heq
    split
    · next h l hx hy => exact absurd ⟨x, y, rest, h, l, rfl, hx, hy⟩ hb
    · rfl
  · next heq =>
    obtain ⟨rfl, rfl⟩ := List.cons.inj heq
    rfl

/-- Reading gives the bytes that a written form stands for. -/
theorem standsFor_iff {cs bs : List UInt8} : StandsFor cs bs ↔ decodeBytes cs = bs := by
  constructor
  · intro h
    induction h with
    | nil => rfl
    | escape hx hy _ ih => simp only [decodeBytes, hx, hy, ih]
    | plain hb _ ih => rw [decodeBytes_of_not_opensEscape hb, ih]
  · rintro rfl
    fun_induction decodeBytes cs with
    | case1 => exact .nil
    | case2 x y rest h l hy hx ih => exact .escape hx hy ih
    | case3 x y rest hnone ih =>
      refine .plain ?_ ih
      rintro ⟨x, y, rest, h, l, heq, hx, hy⟩
      cases heq
      exact hnone h l hx hy
    | case4 b rest hne ih =>
      refine .plain ?_ ih
      rintro ⟨x, y, rest, h, l, heq, -, -⟩
      obtain ⟨rfl, rfl⟩ := List.cons.inj heq
      exact hne x y rest rfl rfl

/-- A segment stands for a name if its bytes stand for those of the name. -/
theorem decode_eq_ok_iff {segment name : String} :
    decode segment = .ok name ↔ StandsFor (Utf8.encode segment) (Utf8.encode name) := by
  rw [decode, Utf8.decode_eq_ok_iff, standsFor_iff]

/-- Only the empty form stands for no bytes. -/
theorem StandsFor.eq_nil_iff {cs bs : List UInt8} (h : StandsFor cs bs) : bs = [] ↔ cs = [] := by
  cases h <;> simp

/-! ## Segments -/

/-- The characters that stay as they are: letters, digits and `-`, `_`, `.`, `~`. -/
def isPlainChar (c : Char) : Bool :=
  c.isAlphanum || c == '-' || c == '_' || c == '.' || c == '~'

/-- The digits of an escape. -/
def isUpperHexDigit (c : Char) : Bool := c.isDigit || (c.isUpper && c ≤ 'F')

/-- Plain characters and escapes with upper-case digits. -/
inductive Written : List Char → Prop
  | nil : Written []
  | plain {c : Char} {cs : List Char} (hc : isPlainChar c = true) (h : Written cs) :
      Written (c :: cs)
  | escaped {x y : Char} {cs : List Char} (hx : isUpperHexDigit x = true)
      (hy : isUpperHexDigit y = true) (h : Written cs) : Written ('%' :: x :: y :: cs)

theorem isPlainChar_of_isPlain {b : UInt8} (h : isPlain b = true) :
    isPlainChar (Char.ofNat b.toNat) = true := by
  have hall : ∀ n < 256, isPlain (UInt8.ofNat n) = true → isPlainChar (Char.ofNat n) = true := by
    decide +kernel
  exact hall b.toNat b.toNat_lt (by rwa [UInt8.ofNat_toNat])

theorem isUpperHexDigit_hexDigit {n : Nat} (h : n < 16) :
    isUpperHexDigit (Char.ofNat (hexDigit n).toNat) = true := by
  decide +revert

theorem written_encodeBytes (bs : List UInt8) :
    Written ((encodeBytes bs).map fun b => Char.ofNat b.toNat) := by
  induction bs with
  | nil => exact .nil
  | cons b bs ih =>
    have hs : encodeBytes (b :: bs) = (if isPlain b then [b] else escape b) ++ encodeBytes bs :=
      rfl
    rw [hs, List.map_append]
    by_cases hp : isPlain b
    · rw [if_pos hp]
      exact .plain (isPlainChar_of_isPlain hp) ih
    · have hb := b.toNat_lt
      rw [if_neg hp]
      exact .escaped (isUpperHexDigit_hexDigit (by omega)) (isUpperHexDigit_hexDigit (by omega)) ih

/-- A name is written with plain characters and escapes. -/
theorem written_encode (name : String) : Written (encode name).toList := by
  rw [encode, ofAscii, String.toList_ofList]
  exact written_encodeBytes _

/-- What is written consists of plain characters and the sign of an escape. -/
theorem Written.mem {cs : List Char} (h : Written cs) {c : Char} (hc : c ∈ cs) :
    isPlainChar c = true ∨ c = '%' := by
  have hdigit {x : Char} (hx : isUpperHexDigit x = true) : isPlainChar x = true := by
    simp only [isUpperHexDigit, Bool.or_eq_true, Bool.and_eq_true] at hx
    rcases hx with hx | ⟨hx, -⟩
    · simp [isPlainChar, Char.isAlphanum, hx]
    · have halpha : (x.isUpper || x.isLower) = true := by rw [hx, Bool.true_or]
      have halphanum : x.isAlphanum = true := Bool.or_eq_true_iff.mpr (.inl halpha)
      simp [isPlainChar, halphanum]
  induction h with
  | nil => cases hc
  | plain hp _ ih =>
    rcases List.mem_cons.mp hc with rfl | hc
    · exact .inl hp
    · exact ih hc
  | escaped hx hy _ ih =>
    simp only [List.mem_cons] at hc
    rcases hc with rfl | rfl | rfl | hc
    · exact .inr rfl
    · exact .inl (hdigit hx)
    · exact .inl (hdigit hy)
    · exact ih hc

/-- A separator does not occur in what is written. -/
theorem Written.not_mem {cs : List Char} (h : Written cs) {c : Char} (hc : isPlainChar c = false)
    (hsign : c ≠ '%') : c ∉ cs := by
  intro hmem
  rcases h.mem hmem with hplain | rfl
  · rw [hc] at hplain
    cases hplain
  · exact hsign rfl

theorem not_mem_encode {c : Char} (hc : isPlainChar c = false) (hsign : c ≠ '%') (name : String) :
    c ∉ (encode name).toList :=
  (written_encode name).not_mem hc hsign

end VaultAccess.Text.Percent
