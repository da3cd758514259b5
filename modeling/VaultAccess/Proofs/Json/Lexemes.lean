import Mathlib.Data.List.TakeWhile
import VaultAccess.Json.Raw
import VaultAccess.Proofs.Text.Utf8

/-!
# Lexemes

What the scanners take for blanks, words, strings and numbers, said without them. A string has a
form and a meaning: one that nobody asks for only needs the form. A number ends where nothing
follows that could belong to it; all other lexemes end by themselves.
-/
namespace VaultAccess.Json

open Text

variable {bs rest : List UInt8}

/-! ## Blanks and words -/

/-- Blanks alone. -/
def Blank (bs : List UInt8) : Prop := ∀ b ∈ bs, isBlankByte b = true

theorem blank_nil : Blank [] := by simp [Blank]

theorem Blank.append {before after : List UInt8} (hbefore : Blank before) (hafter : Blank after) :
    Blank (before ++ after) :=
  fun _ h => (List.mem_append.mp h).elim (hbefore _) (hafter _)

theorem skipBlank_cons {b : UInt8} (h : isBlankByte b = false) (rest : List UInt8) :
    skipBlank (b :: rest) = b :: rest := by
  simp [skipBlank, h]

theorem skipBlank_append {blanks : List UInt8} (h : Blank blanks) (bs : List UInt8) :
    skipBlank (blanks ++ bs) = skipBlank bs :=
  List.dropWhile_append_of_pos h

theorem exists_blank (bs : List UInt8) : ∃ blanks, Blank blanks ∧ bs = blanks ++ skipBlank bs :=
  ⟨bs.takeWhile isBlankByte, fun _ h => List.mem_takeWhile_imp h,
    (List.takeWhile_append_dropWhile).symm⟩

theorem skipBlank_eq_nil_iff : skipBlank bs = [] ↔ Blank bs := List.dropWhile_eq_nil_iff

theorem isBlankByte_of_skipBlank {b : UInt8} (h : skipBlank bs = b :: rest) :
    isBlankByte b = false := by
  have hhead := List.head?_dropWhile_not isBlankByte bs
  rw [← skipBlank, h] at hhead
  exact hhead

/-- The byte after the blanks ahead. -/
theorem skipBlank_eq_cons_iff {b : UInt8} :
    skipBlank bs = b :: rest ↔
      isBlankByte b = false ∧ ∃ blanks, Blank blanks ∧ bs = blanks ++ b :: rest := by
  constructor
  · intro h
    obtain ⟨blanks, hblanks, hbs⟩ := exists_blank bs
    exact ⟨isBlankByte_of_skipBlank h, blanks, hblanks, h ▸ hbs⟩
  · rintro ⟨hb, blanks, hblanks, rfl⟩
    rw [skipBlank_append hblanks, skipBlank, List.dropWhile_cons_of_neg (by simp [hb])]

theorem skipBlank_append_cons {blanks : List UInt8} {b : UInt8} (hb : isBlankByte b = false)
    (hblanks : Blank blanks) (rest : List UInt8) : skipBlank (blanks ++ b :: rest) = b :: rest :=
  skipBlank_eq_cons_iff.mpr ⟨hb, blanks, hblanks, rfl⟩

/-- Nothing blank stands before what does not begin with a blank. -/
theorem Blank.eq_nil {blanks tail : List UInt8} {b : UInt8} (hblanks : Blank blanks)
    (h : b :: tail = blanks ++ rest) (hb : isBlankByte b = false) : blanks = [] := by
  cases blanks with
  | nil => rfl
  | cons c blanks =>
    obtain ⟨rfl, -⟩ := List.cons.inj h
    exact absurd (hblanks b List.mem_cons_self) (by simp [hb])

theorem ident_eq_ok_iff {word : List UInt8} : ident word bs = .ok rest ↔ bs = word ++ rest := by
  induction word generalizing bs with
  | nil => simp [ident]
  | cons e word ih =>
    cases bs with
    | nil => simp [ident, failAt]
    | cons b bs =>
      rw [ident]
      split
      · next heq => rw [ih, heq, List.cons_append, List.cons_inj_right]
      · next hne => simp [failAt, hne]

/-! ## Strings -/

/-- Four hexadecimal digits and the code unit that they write. -/
def IsUnit (digits : List UInt8) (n : Nat) : Prop :=
  ∃ w x y z, digits.map hexValue? = [some w, some x, some y, some z] ∧
    n = 4096 * w + 256 * x + 16 * y + z

theorem codeUnit_eq_ok_iff {n : Nat} :
    codeUnit bs = .ok (n, rest) ↔ ∃ digits, bs = digits ++ rest ∧ IsUnit digits n := by
  constructor
  · intro h
    unfold codeUnit at h
    split at h
    · next a b c d tail =>
      split at h
      · next w x y z ha hb hc hd =>
        cases h
        exact ⟨[a, b, c, d], rfl, w, x, y, z, by simp [ha, hb, hc, hd], rfl⟩
      · cases h
    · cases h
  · rintro ⟨digits, rfl, w, x, y, z, hvalues, rfl⟩
    simp only [List.map_eq_cons_iff, List.map_eq_nil_iff] at hvalues
    obtain ⟨a, _, rfl, ha, b, _, rfl, hb, c, _, rfl, hc, d, _, rfl, hd, rfl⟩ := hvalues
    simp [codeUnit, ha, hb, hc, hd]

/-- The form of an escape after its backslash: a letter, or a code unit of any kind. -/
def IsEscape (form : List UInt8) : Prop :=
  (∃ b x, form = [b] ∧ simpleEscape? b = some x) ∨ ∃ digits n, form = 117 :: digits ∧ IsUnit digits n

/-- An escape after its backslash and the bytes that it stands for: those of a byte by its letter,
or those of a character by its code units. -/
inductive Escape : List UInt8 → List UInt8 → Prop where
  | letter {b x : UInt8} (h : simpleEscape? b = some x) : Escape [b] [x]
  | unit {digits : List UInt8} {n : Nat} (h : IsUnit digits n)
      (hscalar : ¬ (0xD800 ≤ n ∧ n ≤ 0xDFFF)) :
      Escape (117 :: digits) (Utf8.encodeChar (Char.ofNat n))
  | pair {digits digits' : List UInt8} {high low : Nat} (h : IsUnit digits high)
      (h' : IsUnit digits' low) (hhigh : 0xD800 ≤ high ∧ high ≤ 0xDBFF)
      (hlow : 0xDC00 ≤ low ∧ low ≤ 0xDFFF) :
      Escape (117 :: (digits ++ 92 :: 117 :: digits'))
        (Utf8.encodeChar (Char.ofNat ((high - 0xD800) * 1024 + (low - 0xDC00) + 0x10000)))

/-- The form of a string from its opening quote, which is left out, to its closing one. -/
inductive IsString : List UInt8 → Prop where
  | close : IsString [34]
  | plain {b : UInt8} {lexeme : List UInt8} (hb : 32 ≤ b ∧ b ≠ 34 ∧ b ≠ 92)
      (hlexeme : IsString lexeme) : IsString (b :: lexeme)
  | escape {form lexeme : List UInt8} (hform : IsEscape form) (hlexeme : IsString lexeme) :
      IsString (92 :: (form ++ lexeme))

/-- A string, in that form, and the bytes that it writes. -/
inductive Denotes : List UInt8 → List UInt8 → Prop where
  | close : Denotes [34] []
  | plain {b : UInt8} {lexeme bytes : List UInt8} (hb : 32 ≤ b ∧ b ≠ 34 ∧ b ≠ 92)
      (hlexeme : Denotes lexeme bytes) : Denotes (b :: lexeme) (b :: bytes)
  | escape {form out lexeme bytes : List UInt8} (hform : Escape form out)
      (hlexeme : Denotes lexeme bytes) : Denotes (92 :: (form ++ lexeme)) (out ++ bytes)

theorem Denotes.isString {lexeme bytes : List UInt8} (h : Denotes lexeme bytes) :
    IsString lexeme := by
  induction h with
  | close => exact .close
  | plain hb _ ih => exact .plain hb ih
  | escape hform _ ih =>
    cases hform with
    | letter h => exact .escape (.inl ⟨_, _, rfl, h⟩) ih
    | unit h _ => exact .escape (.inr ⟨_, _, rfl, h⟩) ih
    | pair h h' _ _ =>
      have htail := IsString.escape (.inr ⟨_, _, rfl, h'⟩) ih
      have hboth := IsString.escape (.inr ⟨_, _, rfl, h⟩) htail
      simpa using hboth

theorem skipEscape_eq_ok_iff :
    Raw.skipEscape bs = .ok rest ↔ ∃ form, bs = form ++ rest ∧ IsEscape form := by
  have hu : simpleEscape? 117 = none := by decide
  constructor
  · intro h
    unfold Raw.skipEscape at h
    split at h
    · cases h
    · next b tail =>
      split at h
      · next hsimple =>
        cases h
        obtain ⟨x, hx⟩ := Option.isSome_iff_exists.mp hsimple
        exact ⟨[b], rfl, .inl ⟨b, x, rfl, hx⟩⟩
      split at h
      · next hb =>
        split at h
        · next n tail' hunit =>
          cases h
          obtain ⟨digits, rfl, hdigits⟩ := codeUnit_eq_ok_iff.mp hunit
          exact ⟨117 :: digits, by rw [hb]; rfl, .inr ⟨digits, n, rfl, hdigits⟩⟩
        · cases h
      · cases h
  · rintro ⟨form, rfl, ⟨b, x, rfl, hx⟩ | ⟨digits, n, rfl, hdigits⟩⟩
    · simp [Raw.skipEscape, hx]
    · have hunit : codeUnit (digits ++ rest) = .ok (n, rest) :=
        codeUnit_eq_ok_iff.mpr ⟨digits, rfl, hdigits⟩
      simp [Raw.skipEscape, hu, hunit]

theorem lowSurrogate_eq_ok_iff {high : Nat} {out : List UInt8} :
    lowSurrogate high bs = .ok (out, rest) ↔
      ∃ digits low, bs = 92 :: 117 :: (digits ++ rest) ∧ IsUnit digits low ∧
        (0xDC00 ≤ low ∧ low ≤ 0xDFFF) ∧
        out = Utf8.encodeChar (Char.ofNat ((high - 0xD800) * 1024 + (low - 0xDC00) + 0x10000)) := by
  constructor
  · intro h
    unfold lowSurrogate at h
    split at h
    · cases h
    split at h
    · cases h
    next hb =>
    split at h
    · cases h
    split at h
    · cases h
    next hu =>
    split at h
    · cases h
    next low tail hunit =>
    split at h
    · cases h
    next hlow =>
    simp only [Except.ok.injEq, Prod.mk.injEq] at h
    obtain ⟨hout, rfl⟩ := h
    obtain ⟨digits, rfl, hdigits⟩ := codeUnit_eq_ok_iff.mp hunit
    refine ⟨digits, low, ?_, hdigits, by omega, hout.symm⟩
    rw [Decidable.not_not.mp hb, Decidable.not_not.mp hu]
  · rintro ⟨digits, low, rfl, hdigits, hlow, hout⟩
    have hunit : codeUnit (digits ++ rest) = .ok (low, rest) :=
      codeUnit_eq_ok_iff.mpr ⟨digits, rfl, hdigits⟩
    have hrange : ¬ (low < 0xDC00 ∨ 0xDFFF < low) := by omega
    rw [lowSurrogate, if_neg (by simp)]
    simp only [ne_eq, not_true_eq_false, if_false, hunit, if_neg hrange, hout]

theorem escape_eq_ok_iff {out : List UInt8} :
    escape bs = .ok (out, rest) ↔ ∃ form, bs = form ++ rest ∧ Escape form out := by
  have hu : simpleEscape? 117 = none := by decide
  constructor
  · intro h
    unfold Json.escape at h
    split at h
    · cases h
    next b tail =>
    split at h
    · next x hx =>
      cases h
      exact ⟨[b], rfl, .letter hx⟩
    split at h
    · cases h
    next hb =>
    obtain rfl : b = 117 := Decidable.not_not.mp hb
    split at h
    · cases h
    next n tail' hunit =>
    obtain ⟨digits, rfl, hdigits⟩ := codeUnit_eq_ok_iff.mp hunit
    split at h
    · cases h
    next hlone =>
    split at h
    · next hhigh =>
      obtain ⟨digits', low, rfl, hdigits', hlow, hout⟩ := lowSurrogate_eq_ok_iff.mp h
      rw [hout]
      exact ⟨_, by simp, .pair hdigits hdigits' hhigh hlow⟩
    · next hhigh =>
      cases h
      exact ⟨117 :: digits, rfl, .unit hdigits (by omega)⟩
  · rintro ⟨form, rfl, hform⟩
    cases hform with
    | letter hx => simp [Json.escape, hx]
    | @unit digits n hdigits hscalar =>
      have hunit : codeUnit (digits ++ rest) = .ok (n, rest) :=
        codeUnit_eq_ok_iff.mpr ⟨digits, rfl, hdigits⟩
      have hlone : ¬ (0xDC00 ≤ n ∧ n ≤ 0xDFFF) := by omega
      have hhigh : ¬ (0xD800 ≤ n ∧ n ≤ 0xDBFF) := by omega
      simp only [Json.escape, List.cons_append, hu, ne_eq, not_true_eq_false, if_false, hunit,
        if_neg hlone, if_neg hhigh]
    | @pair digits digits' high low hdigits hdigits' hhigh hlow =>
      have hunit : codeUnit (digits ++ 92 :: 117 :: (digits' ++ rest)) =
          .ok (high, 92 :: 117 :: (digits' ++ rest)) :=
        codeUnit_eq_ok_iff.mpr ⟨digits, rfl, hdigits⟩
      have hlone : ¬ (0xDC00 ≤ high ∧ high ≤ 0xDFFF) := by omega
      simp only [Json.escape, List.cons_append, List.append_assoc, hu, ne_eq, not_true_eq_false,
        if_false, hunit, if_neg hlone, if_pos hhigh]
      exact lowSurrogate_eq_ok_iff.mpr ⟨digits', low, rfl, hdigits', hlow, rfl⟩

/-- A byte of a string that stands for itself. -/
theorem plain_of_not {b : UInt8} (hquote : ¬ b = 34) (hslash : ¬ b = 92) (hcontrol : ¬ b < 32) :
    32 ≤ b ∧ b ≠ 34 ∧ b ≠ 92 :=
  ⟨UInt8.not_lt.mp hcontrol, hquote, hslash⟩

theorem skipString_eq_ok_iff :
    Raw.skipString bs = .ok rest ↔ ∃ lexeme, bs = lexeme ++ rest ∧ IsString lexeme := by
  constructor
  · intro h
    fun_induction Raw.skipString bs with
    | case1 => cases h
    | case2 tail =>
      cases h
      exact ⟨[34], rfl, .close⟩
    | case3 tail tail' hescape _ ih =>
      obtain ⟨form, rfl, hform⟩ := skipEscape_eq_ok_iff.mp hescape
      obtain ⟨lexeme, rfl, hlexeme⟩ := ih h
      exact ⟨_, by simp, .escape hform hlexeme⟩
    | case4 => cases h
    | case5 => cases h
    | case6 b tail hquote hslash hcontrol ih =>
      obtain ⟨lexeme, rfl, hlexeme⟩ := ih h
      exact ⟨_, rfl, .plain (plain_of_not hquote hslash hcontrol) hlexeme⟩
  · rintro ⟨lexeme, rfl, hlexeme⟩
    induction hlexeme with
    | close => rw [List.singleton_append, Raw.skipString, if_pos rfl]
    | plain hb _ ih =>
      rw [List.cons_append, Raw.skipString, if_neg hb.2.1, if_neg hb.2.2,
        if_neg (UInt8.not_lt.mpr hb.1), ih]
    | @escape form lexeme hform _ ih =>
      have hescape : Raw.skipEscape (form ++ (lexeme ++ rest)) = .ok (lexeme ++ rest) :=
        skipEscape_eq_ok_iff.mpr ⟨form, rfl, hform⟩
      rw [List.cons_append, List.append_assoc, Raw.skipString, if_neg (by decide), if_pos rfl]
      split
      · next he =>
        rw [hescape] at he
        cases he
        exact ih
      · next he =>
        rw [hescape] at he
        cases he

theorem stringBytes_eq_ok_iff {before out : List UInt8} :
    stringBytes before bs = .ok (out, rest) ↔
      ∃ lexeme bytes, bs = lexeme ++ rest ∧ Denotes lexeme bytes ∧
        out = before.reverse ++ bytes := by
  constructor
  · intro h
    fun_induction stringBytes before bs with
    | case1 => cases h
    | case2 before tail =>
      cases h
      exact ⟨[34], [], rfl, .close, (List.append_nil _).symm⟩
    | case3 => cases h
    | case4 before tail out' tail' hescape _ ih =>
      obtain ⟨form, rfl, hform⟩ := escape_eq_ok_iff.mp hescape
      obtain ⟨lexeme, bytes, rfl, hlexeme, rfl⟩ := ih h
      exact ⟨_, _, by simp, .escape hform hlexeme, by simp⟩
    | case5 => cases h
    | case6 before b tail hquote hslash hcontrol ih =>
      obtain ⟨lexeme, bytes, rfl, hlexeme, rfl⟩ := ih h
      exact ⟨_, _, rfl, .plain (plain_of_not hquote hslash hcontrol) hlexeme, by simp⟩
  · rintro ⟨lexeme, bytes, rfl, hlexeme, rfl⟩
    induction hlexeme generalizing before with
    | close => rw [List.singleton_append, stringBytes, if_pos rfl, List.append_nil]
    | plain hb _ ih =>
      rw [List.cons_append, stringBytes, if_neg hb.2.1, if_neg hb.2.2,
        if_neg (UInt8.not_lt.mpr hb.1), ih]
      simp
    | @escape form out lexeme bytes hform _ ih =>
      have hescape : escape (form ++ (lexeme ++ rest)) = .ok (out, lexeme ++ rest) :=
        escape_eq_ok_iff.mpr ⟨form, rfl, hform⟩
      rw [List.cons_append, List.append_assoc, stringBytes, if_neg (by decide), if_pos rfl]
      split
      · next he =>
        rw [hescape] at he
        cases he
      · next he =>
        rw [hescape] at he
        cases he
        rw [ih]
        simp

/-- A string is read as a text exactly if it writes the bytes of the text. -/
theorem string_eq_ok_iff {s : String} :
    string bs = .ok (s, rest) ↔ ∃ lexeme, bs = lexeme ++ rest ∧ Denotes lexeme (Utf8.encode s) := by
  constructor
  · intro h
    unfold Json.string at h
    split at h
    · cases h
    next bytes tail hbytes =>
    obtain ⟨lexeme, bytes, rfl, hlexeme, rfl⟩ := stringBytes_eq_ok_iff.mp hbytes
    split at h
    · next hs =>
      cases h
      exact ⟨lexeme, rfl, Utf8.decode_eq_ok_iff.mp hs ▸ hlexeme⟩
    · cases h
  · rintro ⟨lexeme, rfl, hlexeme⟩
    have hbytes : stringBytes [] (lexeme ++ rest) = .ok (Utf8.encode s, rest) :=
      stringBytes_eq_ok_iff.mpr ⟨lexeme, _, rfl, hlexeme, rfl⟩
    rw [Json.string, hbytes]
    simp only [Utf8.decode_encode]

/-! ## Numbers -/

/-- Digits, of which there is at least one. -/
def IsDigits (bs : List UInt8) : Prop := bs ≠ [] ∧ ∀ b ∈ bs, isDigitByte b = true

/-- The digits of an integer: a lone zero, or digits of which the first is no zero. -/
def IsInteger (bs : List UInt8) : Prop := bs = [48] ∨ IsDigits bs ∧ bs.head? ≠ some 48

/-- A fraction, or nothing. -/
def IsFraction (bs : List UInt8) : Prop := bs = [] ∨ ∃ digits, bs = 46 :: digits ∧ IsDigits digits

/-- An exponent, or nothing. -/
def IsExponent (bs : List UInt8) : Prop :=
  bs = [] ∨ ∃ letter sign digits, bs = letter :: (sign ++ digits) ∧ (letter = 101 ∨ letter = 69) ∧
    (sign = [] ∨ sign = [43] ∨ sign = [45]) ∧ IsDigits digits

/-- A number without its sign. -/
def IsUnsigned (bs : List UInt8) : Prop :=
  ∃ whole fraction exponent, bs = whole ++ fraction ++ exponent ∧
    IsInteger whole ∧ IsFraction fraction ∧ IsExponent exponent

/-- A number. -/
def IsNumber (bs : List UInt8) : Prop := IsUnsigned bs ∨ ∃ tail, bs = 45 :: tail ∧ IsUnsigned tail

/-- Bytes that belong to no number before them. -/
def EndsNumber (rest : List UInt8) : Prop :=
  ∀ b, rest.head? = some b → isDigitByte b = false ∧ b ≠ 46 ∧ b ≠ 101 ∧ b ≠ 69

theorem exists_digits (bs : List UInt8) (h : digitAhead bs = true) :
    ∃ digits, IsDigits digits ∧ bs = digits ++ (countDigits bs).2 := by
  cases bs with
  | nil => cases h
  | cons b tail =>
    refine ⟨(b :: tail).takeWhile isDigitByte, ⟨?_, fun _ hd => List.mem_takeWhile_imp hd⟩,
      (List.takeWhile_append_dropWhile).symm⟩
    have hb : isDigitByte b = true := h
    rw [List.takeWhile_cons_of_pos hb]
    exact List.cons_ne_nil _ _

/-- Digits are counted up to the first byte that is none. -/
theorem countDigits_append {digits : List UInt8} (hdigits : ∀ b ∈ digits, isDigitByte b = true)
    (hrest : digitAhead rest = false) : (countDigits (digits ++ rest)).2 = rest := by
  rw [countDigits, List.dropWhile_append_of_pos hdigits]
  cases rest with
  | nil => rfl
  | cons b tail => exact List.dropWhile_cons_of_neg (by simpa [digitAhead] using hrest)

theorem digitAhead_of_isDigits {digits : List UInt8} (h : IsDigits digits) (rest : List UInt8) :
    digitAhead (digits ++ rest) = true := by
  obtain ⟨hne, hdigits⟩ := h
  cases digits with
  | nil => exact absurd rfl hne
  | cons b tail => exact hdigits b List.mem_cons_self

theorem EndsNumber.digitAhead (h : EndsNumber rest) : digitAhead rest = false := by
  cases rest with
  | nil => rfl
  | cons b tail => exact (h b rfl).1

/-- The bytes after a sign, if there is one. -/
theorem exists_sign (bs : List UInt8) :
    ∃ sign tail, bs = sign ++ tail ∧ (sign = [] ∨ sign = [43] ∨ sign = [45]) ∧
      Raw.skipExponent bs =
        match tail with
        | [] => failAt .invalidNumber []
        | b :: rest =>
          if isDigitByte b then .ok (countDigits rest).2 else failAt .invalidNumber rest := by
  unfold Raw.skipExponent
  split
  · exact ⟨[43], _, rfl, by simp, rfl⟩
  · exact ⟨[45], _, rfl, by simp, rfl⟩
  · exact ⟨[], _, rfl, by simp, rfl⟩

theorem exists_exponent_of_skipAfterDigits (h : Raw.skipAfterDigits bs = .ok rest) :
    ∃ exponent, bs = exponent ++ rest ∧ IsExponent exponent := by
  unfold Raw.skipAfterDigits at h
  split at h
  · cases h
    exact ⟨[], rfl, .inl rfl⟩
  next letter tail =>
  split at h
  · next hletter =>
    obtain ⟨sign, digits, rfl, hsign, hskip⟩ := exists_sign tail
    rw [hskip] at h
    split at h
    · cases h
    next b after =>
    split at h
    · next hb =>
      obtain ⟨exponent, hexponent, heq⟩ := exists_digits (b :: after) hb
      have hcount : (countDigits (b :: after)).2 = (countDigits after).2 :=
        List.dropWhile_cons_of_pos hb
      rw [hcount, Except.ok.inj h] at heq
      exact ⟨letter :: (sign ++ exponent), by simp [heq],
        .inr ⟨letter, sign, exponent, rfl, hletter, hsign, hexponent⟩⟩
    · cases h
  · cases h
    exact ⟨[], rfl, .inl rfl⟩

theorem skipExponent_append {sign digits : List UInt8}
    (hsign : sign = [] ∨ sign = [43] ∨ sign = [45]) (hdigits : IsDigits digits)
    (hrest : EndsNumber rest) : Raw.skipExponent (sign ++ digits ++ rest) = .ok rest := by
  obtain ⟨hne, hall⟩ := hdigits
  cases digits with
  | nil => exact absurd rfl hne
  | cons b digits =>
    obtain ⟨hb, hall⟩ := List.forall_mem_cons.mp hall
    have hcount := countDigits_append hall hrest.digitAhead
    have hplus : b ≠ 43 := by
      rintro rfl
      exact absurd hb (by decide)
    have hminus : b ≠ 45 := by
      rintro rfl
      exact absurd hb (by decide)
    rcases hsign with rfl | rfl | rfl <;> simp [Raw.skipExponent, hplus, hminus, hb, hcount]

theorem skipAfterDigits_append {exponent : List UInt8} (h : IsExponent exponent)
    (hrest : EndsNumber rest) : Raw.skipAfterDigits (exponent ++ rest) = .ok rest := by
  rcases h with rfl | ⟨letter, sign, digits, rfl, hletter, hsign, hdigits⟩
  · cases rest with
    | nil => rfl
    | cons b tail =>
      obtain ⟨-, -, hlower, hupper⟩ := hrest b rfl
      simp [Raw.skipAfterDigits, hlower, hupper]
  · rw [List.cons_append, Raw.skipAfterDigits, if_pos hletter]
    exact skipExponent_append hsign hdigits hrest

theorem exists_fraction_of_skipAfterInteger (h : Raw.skipAfterInteger bs = .ok rest) :
    ∃ fraction exponent, bs = fraction ++ exponent ++ rest ∧ IsFraction fraction ∧
      IsExponent exponent := by
  unfold Raw.skipAfterInteger at h
  split at h
  · next tail =>
    split at h
    · next hahead =>
      obtain ⟨digits, hdigits, heq⟩ := exists_digits _ hahead
      obtain ⟨exponent, hrest, hexponent⟩ := exists_exponent_of_skipAfterDigits h
      refine ⟨46 :: digits, exponent, ?_, .inr ⟨digits, rfl, hdigits⟩, hexponent⟩
      rw [heq, hrest]
      simp
    · cases h
  · obtain ⟨exponent, hrest, hexponent⟩ := exists_exponent_of_skipAfterDigits h
    exact ⟨[], exponent, hrest, .inl rfl, hexponent⟩

/-- What may follow the digits of a number does not start with a digit. -/
theorem IsExponent.digitAhead {exponent : List UInt8} (h : IsExponent exponent)
    (hrest : EndsNumber rest) : digitAhead (exponent ++ rest) = false := by
  rcases h with rfl | ⟨letter, sign, digits, rfl, rfl | rfl, -, -⟩
  · exact hrest.digitAhead
  · rfl
  · rfl

theorem IsFraction.digitAhead {fraction exponent : List UInt8} (h : IsFraction fraction)
    (hexponent : IsExponent exponent) (hrest : EndsNumber rest) :
    digitAhead (fraction ++ (exponent ++ rest)) = false := by
  rcases h with rfl | ⟨digits, rfl, -⟩
  · exact hexponent.digitAhead hrest
  · rfl

theorem skipAfterInteger_append {fraction exponent : List UInt8} (h : IsFraction fraction)
    (hexponent : IsExponent exponent) (hrest : EndsNumber rest) :
    Raw.skipAfterInteger (fraction ++ (exponent ++ rest)) = .ok rest := by
  have hafter := skipAfterDigits_append hexponent hrest
  rcases h with rfl | ⟨digits, rfl, hdigits⟩
  · have hpoint : ∀ tail, [] ++ (exponent ++ rest) ≠ 46 :: tail := by
      rintro tail htail
      rcases hexponent with rfl | ⟨letter, sign, digits, rfl, rfl | rfl, -, -⟩
      · exact (hrest 46 (by rw [show rest = 46 :: tail from htail]; rfl)).2.1 rfl
      · cases htail
      · cases htail
    unfold Raw.skipAfterInteger
    split
    · next tail htail => exact absurd htail (hpoint tail)
    · exact hafter
  · rw [List.cons_append, Raw.skipAfterInteger, if_pos (digitAhead_of_isDigits hdigits _),
      countDigits_append hdigits.2 (hexponent.digitAhead hrest), hafter]

theorem exists_unsigned_of_skipNumber (h : Raw.skipNumber bs = .ok rest) :
    ∃ lexeme, bs = lexeme ++ rest ∧ IsUnsigned lexeme := by
  unfold Raw.skipNumber at h
  split at h
  · cases h
  next b tail =>
  split at h
  · next hb =>
    split at h
    · cases h
    · obtain ⟨fraction, exponent, rfl, hfraction, hexponent⟩ :=
        exists_fraction_of_skipAfterInteger h
      exact ⟨[48] ++ fraction ++ exponent, by simp [hb], _, _, _, rfl, .inl rfl, hfraction,
        hexponent⟩
  next hzero =>
  split at h
  · next hb =>
    obtain ⟨digits, hdigits, heq⟩ := exists_digits (b :: tail) hb
    have hcount : (countDigits (b :: tail)).2 = (countDigits tail).2 :=
      List.dropWhile_cons_of_pos hb
    obtain ⟨fraction, exponent, hrest, hfraction, hexponent⟩ :=
      exists_fraction_of_skipAfterInteger h
    have hhead : digits.head? ≠ some 48 := by
      obtain ⟨hne, -⟩ := hdigits
      cases digits with
      | nil => exact absurd rfl hne
      | cons d digits =>
        obtain ⟨rfl, -⟩ := List.cons.inj heq
        simpa using hzero
    refine ⟨digits ++ fraction ++ exponent, ?_, _, _, _, rfl, .inr ⟨hdigits, hhead⟩, hfraction,
      hexponent⟩
    rw [heq, hcount, hrest]
    simp
  · cases h

theorem skipNumber_append {lexeme : List UInt8} (h : IsUnsigned lexeme) (hrest : EndsNumber rest) :
    Raw.skipNumber (lexeme ++ rest) = .ok rest := by
  obtain ⟨whole, fraction, exponent, rfl, hwhole, hfraction, hexponent⟩ := h
  have hahead := hfraction.digitAhead hexponent hrest
  have hafter := skipAfterInteger_append hfraction hexponent hrest
  simp only [List.append_assoc]
  rcases hwhole with rfl | ⟨⟨hne, hall⟩, hhead⟩
  · simp [Raw.skipNumber, hahead, hafter]
  · cases whole with
    | nil => exact absurd rfl hne
    | cons b whole =>
      obtain ⟨hb, hall⟩ := List.forall_mem_cons.mp hall
      have hzero : b ≠ 48 := by simpa using hhead
      simp [Raw.skipNumber, hzero, hb, countDigits_append hall hahead, hafter]

end VaultAccess.Json
