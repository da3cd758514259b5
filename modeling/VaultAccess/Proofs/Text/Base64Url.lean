import VaultAccess.Text.Base64Url

/-!
# Base64url reads back

What is written consists of symbols only, carries no padding and leaves no bit over, so it is read
back as the bytes it was written from. Nothing else is read: the bits of the symbols are those of
the bytes, with fewer than a symbol's worth of zeros after them.
-/
namespace VaultAccess.Text.Base64Url

@[simp] theorem value?_symbol {n : Nat} (h : n < 64) : value? (symbol n) = some n := by
  decide +revert

@[simp] theorem read_symbol (offset : Nat) {n : Nat} (h : n < 64) :
    read offset (symbol n) = .ok n := by
  rw [read, value?_symbol h]

/-- The symbols of a byte sequence are written with values of six bits. -/
theorem exists_of_mem_encode {bs : List UInt8} {x : UInt8} (h : x ∈ encode bs) :
    ∃ n < 64, x = symbol n := by
  induction bs using encode.induct with
  | case1 a b c rest ih =>
    have ha := a.toNat_lt
    have hb := b.toNat_lt
    have hc := c.toNat_lt
    simp only [encode, List.mem_cons] at h
    rcases h with h | h | h | h | h
    · exact ⟨_, by omega, h⟩
    · exact ⟨_, by omega, h⟩
    · exact ⟨_, by omega, h⟩
    · exact ⟨_, by omega, h⟩
    · exact ih h
  | case2 a b =>
    have ha := a.toNat_lt
    have hb := b.toNat_lt
    simp only [encode, List.mem_cons, List.not_mem_nil, or_false] at h
    rcases h with h | h | h
    · exact ⟨_, by omega, h⟩
    · exact ⟨_, by omega, h⟩
    · exact ⟨_, by omega, h⟩
  | case3 a =>
    have ha := a.toNat_lt
    simp only [encode, List.mem_cons, List.not_mem_nil, or_false] at h
    rcases h with h | h
    · exact ⟨_, by omega, h⟩
    · exact ⟨_, by omega, h⟩
  | case4 => simp [encode] at h

/-- Reading the symbols of a byte sequence gives its bytes, wherever the symbols stand. -/
theorem readRest_encode (offset : Nat) (bs : List UInt8) :
    readRest offset (encode bs) = .ok bs := by
  induction bs using encode.induct generalizing offset with
  | case1 a b c rest ih =>
    have ha := a.toNat_lt
    have hb := b.toNat_lt
    have hc := c.toNat_lt
    have h1 : a.toNat / 4 * 4 + (a.toNat % 4 * 16 + b.toNat / 16) / 16 = a.toNat := by omega
    have h2 : (a.toNat % 4 * 16 + b.toNat / 16) % 16 * 16 +
        (b.toNat % 16 * 4 + c.toNat / 64) / 4 = b.toNat := by omega
    have h3 : (b.toNat % 16 * 4 + c.toNat / 64) % 4 * 64 + c.toNat % 64 = c.toNat := by omega
    simp only [encode, readRest, ih]
    rw [read_symbol _ (by omega), read_symbol _ (by omega), read_symbol _ (by omega),
      read_symbol _ (by omega)]
    simp only [h1, h2, h3, UInt8.ofNat_toNat]
  | case2 a b =>
    have ha := a.toNat_lt
    have hb := b.toNat_lt
    have h1 : a.toNat / 4 * 4 + (a.toNat % 4 * 16 + b.toNat / 16) / 16 = a.toNat := by omega
    have h2 : (a.toNat % 4 * 16 + b.toNat / 16) % 16 * 16 + b.toNat % 16 * 4 / 4 = b.toNat := by
      omega
    simp only [encode, readRest]
    rw [read_symbol _ (by omega), read_symbol _ (by omega), read_symbol _ (by omega)]
    simp only [if_pos (show b.toNat % 16 * 4 % 4 = 0 by omega), h1, h2, UInt8.ofNat_toNat]
  | case3 a =>
    have ha := a.toNat_lt
    have h1 : a.toNat / 4 * 4 + a.toNat % 4 * 16 / 16 = a.toNat := by omega
    simp only [encode, readRest]
    rw [read_symbol _ (by omega), read_symbol _ (by omega)]
    simp only [if_pos (show a.toNat % 4 * 16 % 16 = 0 by omega), h1, UInt8.ofNat_toNat]
  | case4 => rfl

theorem symbol_ne_pad {n : Nat} (h : n < 64) : symbol n ≠ pad := by
  decide +revert

/-- Nothing that is written ends in padding. -/
theorem isPadded_encode (bs : List UInt8) : isPadded (encode bs) = false := by
  have hd : (encode bs).reverse.dropWhile (· == pad) = (encode bs).reverse := by
    cases hr : (encode bs).reverse with
    | nil => rfl
    | cons x rest =>
      have hx : x ∈ encode bs := by
        rw [← List.mem_reverse, hr]
        exact List.mem_cons_self
      obtain ⟨n, hn, rfl⟩ := exists_of_mem_encode hx
      simp [symbol_ne_pad hn]
  simp [isPadded, hd]

/-- Bytes are read back from their symbols. -/
@[simp] theorem decode_encode (bs : List UInt8) : decode (encode bs) = .ok bs := by
  have hr := readRest_encode 0 bs
  unfold decode
  split
  · next x hx =>
    obtain ⟨n, hn, rfl⟩ := exists_of_mem_encode (List.mem_of_getLast? hx)
    rw [if_neg (by simp [value?_symbol hn]), isPadded_encode, hr]
    rfl
  · next hx =>
    rw [List.getLast?_eq_none_iff] at hx
    rw [hx] at hr
    exact hr

/-- Symbols are letters, digits, `-` and `_`. -/
theorem symbol_range {n : Nat} (h : n < 64) :
    0x2D ≤ (symbol n).toNat ∧ (symbol n).toNat < 0x7B := by
  decide +revert

/-- Whether a character is one of the alphabet: a letter or digit of ASCII, `-` or `_`. -/
def isSymbol (c : Char) : Bool := c.isAlphanum || c == '-' || c == '_'

theorem isSymbol_symbol {n : Nat} (h : n < 64) :
    isSymbol (Char.ofNat (symbol n).toNat) = true := by
  decide +revert

/-! ## Only what is written is read -/

theorem symbol_of_value? {b : UInt8} {n : Nat} (h : value? b = some n) : n < 64 ∧ symbol n = b := by
  have hb := b.toNat_lt
  have hbyte : ∀ m, m = b.toNat → UInt8.ofNat m = b := fun m hm => by rw [hm, UInt8.ofNat_toNat]
  unfold value? at h
  unfold symbol
  simp only at h
  split at h
  · cases h
    rw [if_pos (by omega)]
    exact ⟨by omega, hbyte _ (by omega)⟩
  split at h
  · cases h
    rw [if_neg (by omega), if_pos (by omega)]
    exact ⟨by omega, hbyte _ (by omega)⟩
  split at h
  · cases h
    rw [if_neg (by omega), if_neg (by omega), if_pos (by omega)]
    exact ⟨by omega, hbyte _ (by omega)⟩
  split at h
  · next hdash =>
    cases h
    exact ⟨by omega, hbyte 45 hdash.symm⟩
  split at h
  · next hline =>
    cases h
    exact ⟨by omega, hbyte 95 hline.symm⟩
  · cases h

theorem read_eq_ok {offset n : Nat} {b : UInt8} (h : read offset b = .ok n) :
    n < 64 ∧ symbol n = b := by
  unfold read at h
  split at h
  · next hv =>
    cases h
    exact symbol_of_value? hv
  · cases h

theorem toNat_ofNat {n : Nat} (h : n < 256) : (UInt8.ofNat n).toNat = n := by
  rw [UInt8.toNat_ofNat']
  omega

/-- Two values that leave no bit over are those of one byte. -/
theorem encode_two {x y : Nat} (hx : x < 64) (hy : y < 64) (hover : y % 16 = 0) :
    encode [UInt8.ofNat (x * 4 + y / 16)] = [symbol x, symbol y] := by
  rw [encode, toNat_ofNat (by omega), show (x * 4 + y / 16) / 4 = x by omega,
    show (x * 4 + y / 16) % 4 * 16 = y by omega]

/-- Three values that leave no bit over are those of two bytes. -/
theorem encode_three {x y z : Nat} (hx : x < 64) (hy : y < 64) (hz : z < 64) (hover : z % 4 = 0) :
    encode [UInt8.ofNat (x * 4 + y / 16), UInt8.ofNat (y % 16 * 16 + z / 4)] =
      [symbol x, symbol y, symbol z] := by
  rw [encode, toNat_ofNat (by omega), toNat_ofNat (by omega),
    show (x * 4 + y / 16) / 4 = x by omega,
    show (x * 4 + y / 16) % 4 * 16 + (y % 16 * 16 + z / 4) / 16 = y by omega,
    show (y % 16 * 16 + z / 4) % 16 * 4 = z by omega]

/-- Four values are those of three bytes. -/
theorem encode_four {x y z w : Nat} (hx : x < 64) (hy : y < 64) (hz : z < 64) (hw : w < 64)
    (rest : List UInt8) :
    encode (UInt8.ofNat (x * 4 + y / 16) :: UInt8.ofNat (y % 16 * 16 + z / 4) ::
        UInt8.ofNat (z % 4 * 64 + w) :: rest) =
      symbol x :: symbol y :: symbol z :: symbol w :: encode rest := by
  rw [encode, toNat_ofNat (by omega), toNat_ofNat (by omega), toNat_ofNat (by omega),
    show (x * 4 + y / 16) / 4 = x by omega,
    show (x * 4 + y / 16) % 4 * 16 + (y % 16 * 16 + z / 4) / 16 = y by omega,
    show (y % 16 * 16 + z / 4) % 16 * 4 + (z % 4 * 64 + w) / 64 = z by omega,
    show (z % 4 * 64 + w) % 64 = w by omega]

/-- What is read as bytes is their written form. -/
theorem eq_encode_of_readRest {offset : Nat} {text bytes : List UInt8}
    (h : readRest offset text = .ok bytes) : text = encode bytes := by
  fun_induction readRest offset text generalizing bytes with
  | case1 =>
    cases h
    rfl
  | case6 offset a b x y hb ha hover =>
    cases h
    obtain ⟨hx, rfl⟩ := read_eq_ok ha
    obtain ⟨hy, rfl⟩ := read_eq_ok hb
    rw [encode_two hx hy hover]
  | case11 offset a b c x y z hc hb ha hover =>
    cases h
    obtain ⟨hx, rfl⟩ := read_eq_ok ha
    obtain ⟨hy, rfl⟩ := read_eq_ok hb
    obtain ⟨hz, rfl⟩ := read_eq_ok hc
    rw [encode_three hx hy hz hover]
  | case18 offset a b c d rest x y z w hd hc hb ha bytes hrest ih =>
    cases h
    obtain ⟨hx, rfl⟩ := read_eq_ok ha
    obtain ⟨hy, rfl⟩ := read_eq_ok hb
    obtain ⟨hz, rfl⟩ := read_eq_ok hc
    obtain ⟨hw, rfl⟩ := read_eq_ok hd
    rw [encode_four hx hy hz hw, ← ih hrest]
  | _ => cases h

/-- A text is read as bytes exactly if it is their written form. -/
theorem decode_eq_ok_iff {text bytes : List UInt8} :
    decode text = .ok bytes ↔ text = encode bytes := by
  refine ⟨fun h => ?_, fun h => by rw [h, decode_encode]⟩
  unfold decode at h
  split at h
  · split at h
    · cases h
    split at h
    · cases h
    · exact eq_encode_of_readRest h
  · next hlast =>
    cases h
    exact List.getLast?_eq_none_iff.mp hlast

/-! ## Bit by bit -/

/-- The lowest bits of a number, the highest of them first. -/
def bits : Nat → Nat → List Nat
  | 0, _ => []
  | n + 1, x => bits n (x / 2) ++ [x % 2]

/-- A text of symbols alone whose bits are those of the bytes, then zeros that make up no symbol. -/
def Spells (text bytes : List UInt8) : Prop :=
  ∃ (values : List Nat) (left : Nat),
    (∀ n ∈ values, n < 64) ∧ text = values.map symbol ∧ left < 6 ∧
      values.flatMap (bits 6) = bytes.flatMap (fun b => bits 8 b.toNat) ++ List.replicate left 0

@[simp] theorem length_bits (n x : Nat) : (bits n x).length = n := by
  induction n generalizing x with
  | zero => rfl
  | succ n ih => rw [bits, List.length_append, ih, List.length_singleton]

theorem bits_six_injective {x y : Nat} (hx : x < 64) (hy : y < 64) (h : bits 6 x = bits 6 y) :
    x = y := by
  simp only [bits, List.nil_append, List.cons_append, List.cons.injEq, and_true] at h
  omega

theorem length_flatMap_bits {α : Type} (n : Nat) (f : α → Nat) (xs : List α) :
    (xs.flatMap fun x => bits n (f x)).length = n * xs.length := by
  induction xs with
  | nil => rfl
  | cons x xs ih =>
    rw [List.flatMap_cons, List.length_append, length_bits, ih, List.length_cons, Nat.mul_succ,
      Nat.add_comm]

theorem values_eq_of_bits {xs ys : List Nat} (hx : ∀ n ∈ xs, n < 64) (hy : ∀ n ∈ ys, n < 64)
    (h : xs.flatMap (bits 6) = ys.flatMap (bits 6)) : xs = ys := by
  induction xs generalizing ys with
  | nil =>
    cases ys with
    | nil => rfl
    | cons y ys => simp [bits] at h
  | cons x xs ih =>
    cases ys with
    | nil => simp [bits] at h
    | cons y ys =>
      simp only [List.flatMap_cons] at h
      obtain ⟨hfirst, hrest⟩ := List.append_inj h (by simp)
      simp only [List.forall_mem_cons] at hx hy
      rw [bits_six_injective hx.1 hy.1 hfirst, ih hx.2 hy.2 hrest]

theorem spells_encode (bytes : List UInt8) : Spells (encode bytes) bytes := by
  induction bytes using encode.induct with
  | case1 a b c rest ih =>
    have ha := a.toNat_lt
    have hb := b.toNat_lt
    have hc := c.toNat_lt
    obtain ⟨values, left, hvalues, hrest, hleft, hbits⟩ := ih
    refine ⟨a.toNat / 4 :: (a.toNat % 4 * 16 + b.toNat / 16) ::
      (b.toNat % 16 * 4 + c.toNat / 64) :: c.toNat % 64 :: values, left, ?_, ?_, hleft, ?_⟩
    · simp only [List.forall_mem_cons]
      exact ⟨by omega, by omega, by omega, by omega, hvalues⟩
    · simp only [encode, hrest, List.map_cons]
    · have hgroup : bits 6 (a.toNat / 4) ++ bits 6 (a.toNat % 4 * 16 + b.toNat / 16) ++
          bits 6 (b.toNat % 16 * 4 + c.toNat / 64) ++ bits 6 (c.toNat % 64) =
            bits 8 a.toNat ++ bits 8 b.toNat ++ bits 8 c.toNat := by
        simp only [bits, List.cons_append, List.nil_append, List.cons.injEq, and_true]
        omega
      simp only [List.flatMap_cons, hbits, ← List.append_assoc]
      rw [hgroup]
  | case2 a b =>
    have ha := a.toNat_lt
    have hb := b.toNat_lt
    refine ⟨[a.toNat / 4, a.toNat % 4 * 16 + b.toNat / 16, b.toNat % 16 * 4], 2, ?_, rfl,
      by decide, ?_⟩
    · simp only [List.forall_mem_cons]
      exact ⟨by omega, by omega, by omega, by simp⟩
    · simp only [List.flatMap_cons, List.flatMap_nil, bits, List.cons_append, List.nil_append,
        List.replicate, List.cons.injEq, and_true]
      omega
  | case3 a =>
    have ha := a.toNat_lt
    refine ⟨[a.toNat / 4, a.toNat % 4 * 16], 4, ?_, rfl, by decide, ?_⟩
    · simp only [List.forall_mem_cons]
      exact ⟨by omega, by omega, by simp⟩
    · simp only [List.flatMap_cons, List.flatMap_nil, bits, List.cons_append, List.nil_append,
        List.replicate, List.cons.injEq, and_true]
      omega
  | case4 => exact ⟨[], 0, by simp, rfl, by decide, rfl⟩

/-- The bits of the bytes leave no choice of symbols. -/
theorem spells_iff {text bytes : List UInt8} : Spells text bytes ↔ text = encode bytes := by
  refine ⟨?_, fun h => h ▸ spells_encode bytes⟩
  rintro ⟨xs, left, hxs, rfl, hleft, hx⟩
  obtain ⟨ys, left', hys, henc, hleft', hy⟩ := spells_encode bytes
  have hlength : ∀ {zs : List Nat} {spare : Nat}, zs.flatMap (bits 6) =
      bytes.flatMap (fun b => bits 8 b.toNat) ++ List.replicate spare 0 →
        6 * zs.length = 8 * bytes.length + spare := by
    intro zs spare h
    have hl := congrArg List.length h
    rw [List.length_append, List.length_replicate, length_flatMap_bits 8] at hl
    exact (length_flatMap_bits 6 id zs).symm.trans hl
  have hlx := hlength hx
  have hly := hlength hy
  have heq : left = left' := by omega
  rw [henc, values_eq_of_bits hxs hys (by rw [hx, hy, heq])]

end VaultAccess.Text.Base64Url
