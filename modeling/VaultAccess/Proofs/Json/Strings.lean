import VaultAccess.Json.Scan
import VaultAccess.Json.Writer
import VaultAccess.Proofs.Text.Utf8

/-!
# Written strings read back

A written string is scanned as the text it was written from, whatever stands after it: each
character is either written as its own bytes, none of which ends or escapes anything, or as an
escape that stands for it.
-/
namespace VaultAccess.Json

open Text.Utf8

/-- Bytes that neither end a string nor escape anything are taken as they are. -/
theorem stringBytes_append {bs : List UInt8} (h : ∀ b ∈ bs, 32 ≤ b ∧ b ≠ 34 ∧ b ≠ 92)
    (before rest : List UInt8) :
    stringBytes before (bs ++ rest) = stringBytes (bs.reverse ++ before) rest := by
  induction bs generalizing before with
  | nil => rfl
  | cons b bs ih =>
    obtain ⟨hb, hq, he⟩ := h b (by simp)
    have hc : ¬ b < 32 := by
      rw [UInt8.lt_iff_toNat_lt]
      rw [UInt8.le_iff_toNat_le] at hb
      omega
    rw [List.cons_append, stringBytes, if_neg hq, if_neg he, if_neg hc,
      ih fun x hx => h x (by simp [hx])]
    simp

theorem stringBytes_escape {before bs out rest : List UInt8} (h : escape bs = .ok (out, rest)) :
    stringBytes before (92 :: bs) = stringBytes (out.reverse ++ before) rest := by
  rw [stringBytes, if_neg (by decide), if_pos rfl]
  split
  · next he => rw [h] at he; simp at he
  · next he =>
    rw [h] at he
    simp only [Except.ok.injEq, Prod.mk.injEq] at he
    rw [he.1, he.2]

theorem stringBytes_close (before rest : List UInt8) :
    stringBytes before (34 :: rest) = .ok (before.reverse, rest) := by
  rw [stringBytes, if_pos rfl]

/-- A control character is the code unit that its escape writes. -/
theorem escape_control {n : Nat} (h : n < 32) (rest : List UInt8) :
    escape (encodeChars ['u', '0', '0', hexDigit (n / 16), hexDigit (n % 16)] ++ rest) =
      .ok (encodeChar (Char.ofNat n), rest) := by
  have key : ∀ n < 32, ∃ x y, encodeChars ['u', '0', '0', hexDigit (n / 16), hexDigit (n % 16)] =
      [117, 48, 48, x, y] ∧ hexValue? x = some (n / 16) ∧ hexValue? y = some (n % 16) := by
    intro n hn
    refine ⟨UInt8.ofNat (hexDigit (n / 16)).toNat, UInt8.ofNat (hexDigit (n % 16)).toNat, ?_⟩
    decide +revert
  obtain ⟨x, y, hbytes, hx, hy⟩ := key n h
  have hz : hexValue? 48 = some 0 := by decide
  have hn : 4096 * 0 + 256 * 0 + 16 * (n / 16) + n % 16 = n := by omega
  have hu : simpleEscape? 117 = none := by decide
  simp only [hbytes, List.cons_append, List.nil_append, escape, hu, codeUnit, hz, hx, hy, hn]
  rw [if_neg (by simp), if_neg (by omega), if_neg (by omega)]

/-- The bytes of a character that is no control character, quote or backslash. -/
theorem plain_of_mem_encodeChar {c : Char} (hc : 32 ≤ c.toNat) (hq : c ≠ '"') (he : c ≠ '\\')
    {b : UInt8} (hb : b ∈ encodeChar c) : 32 ≤ b ∧ b ≠ 34 ∧ b ≠ 92 := by
  have hr := toNat_range c
  have hq' : c.toNat ≠ 34 := fun h => hq (Char.toNat_inj.mp h)
  have he' : c.toNat ≠ 92 := fun h => he (Char.toNat_inj.mp h)
  suffices h : 32 ≤ b.toNat ∧ b.toNat ≠ 34 ∧ b.toNat ≠ 92 by
    refine ⟨UInt8.le_iff_toNat_le.mpr h.1, ?_, ?_⟩
    · rintro rfl; exact h.2.1 rfl
    · rintro rfl; exact h.2.2 rfl
  unfold encodeChar at hb
  generalize c.toNat = n at *
  dsimp only at hb
  split at hb
  · simp only [List.mem_singleton] at hb
    rw [hb, toNat_ofNat_of_lt (by omega)]
    omega
  · split at hb
    · simp only [List.mem_cons, List.not_mem_nil, or_false] at hb
      rcases hb with rfl | rfl <;> rw [toNat_ofNat_of_lt (by omega)] <;> omega
    · split at hb
      · simp only [List.mem_cons, List.not_mem_nil, or_false] at hb
        rcases hb with rfl | rfl | rfl <;> rw [toNat_ofNat_of_lt (by omega)] <;> omega
      · simp only [List.mem_cons, List.not_mem_nil, or_false] at hb
        rcases hb with rfl | rfl | rfl | rfl <;> rw [toNat_ofNat_of_lt (by omega)] <;> omega

/-- What a character is written as inside a string stands for that character. -/
theorem stringBytes_escapeChar (c : Char) (before rest : List UInt8) :
    stringBytes before (encodeChars (escapeChar c) ++ rest) =
      stringBytes ((encodeChar c).reverse ++ before) rest := by
  have simple : ∀ d e : Char, ∀ x y : UInt8, encodeChars ['\\', d] = [92, x] →
      encodeChar e = [y] → simpleEscape? x = some y →
      stringBytes before (encodeChars ['\\', d] ++ rest) =
        stringBytes ((encodeChar e).reverse ++ before) rest := by
    intro d e x y hd he hx
    have hescape : escape (x :: rest) = .ok ([y], rest) := by
      rw [escape, hx]
    rw [hd, he, List.cons_append, List.singleton_append, stringBytes_escape hescape]
  unfold escapeChar
  split
  · next h => rw [h]; exact simple _ _ 34 34 (by decide) (by decide) (by decide)
  split
  · next h => rw [h]; exact simple _ _ 92 92 (by decide) (by decide) (by decide)
  split
  · next h => rw [h]; exact simple _ _ 98 8 (by decide) (by decide) (by decide)
  split
  · next h => rw [h]; exact simple _ _ 102 12 (by decide) (by decide) (by decide)
  split
  · next h => rw [h]; exact simple _ _ 110 10 (by decide) (by decide) (by decide)
  split
  · next h => rw [h]; exact simple _ _ 114 13 (by decide) (by decide) (by decide)
  split
  · next h => rw [h]; exact simple _ _ 116 9 (by decide) (by decide) (by decide)
  split
  · next h =>
    have hb : encodeChar '\\' = [92] := by decide
    have he := escape_control h rest
    rw [Char.ofNat_toNat] at he
    rw [encodeChars_cons, hb, List.append_assoc, List.singleton_append, stringBytes_escape he]
  · next hq he _ _ _ _ _ hc =>
    rw [encodeChars_cons, encodeChars_nil, List.append_nil]
    exact stringBytes_append (fun b hb => plain_of_mem_encodeChar (by omega) hq he hb) before rest

theorem stringBytes_escapeChars (cs : List Char) (before rest : List UInt8) :
    stringBytes before (encodeChars (cs.flatMap escapeChar) ++ rest) =
      stringBytes ((encodeChars cs).reverse ++ before) rest := by
  induction cs generalizing before with
  | nil => rfl
  | cons c cs ih =>
    rw [List.flatMap_cons, encodeChars_append, List.append_assoc, stringBytes_escapeChar, ih]
    simp

/-- The bytes of a written string after its opening quote. -/
def quoted (s : String) : List UInt8 := encodeChars (s.toList.flatMap escapeChar) ++ [34]

theorem encodeChars_quote (s : String) : encodeChars (quote s) = 34 :: quoted s := by
  have hq : encodeChar '"' = [34] := by decide
  simp [quote, quoted, hq]

/-- A written string is scanned as its text. -/
@[simp] theorem string_quoted (s : String) (rest : List UInt8) :
    string (quoted s ++ rest) = .ok (s, rest) := by
  have hb : stringBytes [] (quoted s ++ rest) = .ok (encode s, rest) := by
    rw [quoted, List.append_assoc, stringBytes_escapeChars, List.singleton_append,
      stringBytes_close]
    simp [encode]
  rw [string, hb]
  simp only [Text.Utf8.decode_encode]

end VaultAccess.Json
