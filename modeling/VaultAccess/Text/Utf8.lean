/-!
# UTF-8

A byte sequence falls into pieces: characters, broken sequences and at most one sequence that is
cut off by the end. Strict reading wants characters only and names the first other piece;
lenient reading puts the replacement character in its place.
-/
namespace VaultAccess.Text.Utf8

/-- The bytes of one character, most significant first. -/
def encodeChar (c : Char) : List UInt8 :=
  let n := c.toNat
  if n < 0x80 then [UInt8.ofNat n]
  else if n < 0x800 then [UInt8.ofNat (0xC0 + n / 64), UInt8.ofNat (0x80 + n % 64)]
  else if n < 0x10000 then
    [UInt8.ofNat (0xE0 + n / 4096), UInt8.ofNat (0x80 + n / 64 % 64),
      UInt8.ofNat (0x80 + n % 64)]
  else
    [UInt8.ofNat (0xF0 + n / 262144), UInt8.ofNat (0x80 + n / 4096 % 64),
      UInt8.ofNat (0x80 + n / 64 % 64), UInt8.ofNat (0x80 + n % 64)]

/-- The bytes of a list of characters. -/
def encodeChars (cs : List Char) : List UInt8 := cs.flatMap encodeChar

/-- The bytes of a text. -/
def encode (s : String) : List UInt8 := encodeChars s.toList

/-- What a byte sequence falls into. -/
inductive Piece where
  | char (c : Char)
  /-- Bytes that start a sequence and are followed by something that cannot continue it. -/
  | broken (length : Nat)
  /-- A sequence that the end of the input cuts off. -/
  | cut
  deriving DecidableEq, Repr

/-- A byte of a sequence after its first. -/
def isContinuation (b : UInt8) : Bool := 0x80 ≤ b && b ≤ 0xBF

/-- Whether `b` may be the second byte after the first byte `a`: no overlong form, no surrogate,
nothing above the last character. -/
def mayFollow (a b : UInt8) : Bool :=
  if a == 0xE0 then 0xA0 ≤ b && b ≤ 0xBF
  else if a == 0xED then 0x80 ≤ b && b ≤ 0x9F
  else if a == 0xF0 then 0x90 ≤ b && b ≤ 0xBF
  else if a == 0xF4 then 0x80 ≤ b && b ≤ 0x8F
  else isContinuation b

/-- The six low bits of a continuation byte. -/
def low (b : UInt8) : Nat := b.toNat % 64

/-- The first piece of the bytes `a :: r`, and the bytes after it. -/
def first (a : UInt8) (r : List UInt8) : Piece × List UInt8 :=
  if a < 0x80 then (.char (Char.ofNat a.toNat), r)
  else if a < 0xC2 || 0xF4 < a then (.broken 1, r)
  else match r with
    | [] => (.cut, [])
    | b :: r₁ =>
      if !mayFollow a b then (.broken 1, b :: r₁)
      else if a < 0xE0 then (.char (Char.ofNat (a.toNat % 32 * 64 + low b)), r₁)
      else match r₁ with
        | [] => (.cut, [])
        | c :: r₂ =>
          if !isContinuation c then (.broken 2, c :: r₂)
          else if a < 0xF0 then
            (.char (Char.ofNat (a.toNat % 16 * 4096 + low b * 64 + low c)), r₂)
          else match r₂ with
            | [] => (.cut, [])
            | d :: r₃ =>
              if !isContinuation d then (.broken 3, d :: r₃)
              else
                (.char (Char.ofNat
                  (a.toNat % 8 * 262144 + low b * 4096 + low c * 64 + low d)), r₃)

theorem first_length (a : UInt8) (r : List UInt8) : (first a r).2.length ≤ r.length := by
  unfold first
  split
  · exact Nat.le_refl _
  · split
    · exact Nat.le_refl _
    · split
      · exact Nat.le_refl _
      · split
        · exact Nat.le_refl _
        · split
          · simp
          · split
            · simp
            · split
              · simp
              · split
                · simp only [List.length_cons]; omega
                · split
                  · simp
                  · split
                    · simp
                    · simp only [List.length_cons]; omega

/-- Why bytes are not UTF-8: where the first bad sequence starts, and how long it is if
it is not cut off by the end. -/
structure Fault where
  start : Nat
  length? : Option Nat
  deriving DecidableEq, Repr

/-- The wording of a fault. -/
def Fault.message (f : Fault) : String :=
  match f.length? with
  | some n => "invalid utf-8 sequence of " ++ toString n ++ " bytes from index " ++
      toString f.start
  | none => "incomplete utf-8 byte sequence from index " ++ toString f.start

/-- The characters read before, in reverse, followed by those of the bytes from `start` on. -/
def decodeFrom (start : Nat) (before : List Char) (bs : List UInt8) :
    Except Fault (List Char) :=
  match bs with
  | [] => .ok before.reverse
  | a :: r =>
    match _h : first a r with
    | (.char c, rest) => decodeFrom (start + (encodeChar c).length) (c :: before) rest
    | (.broken n, _) => .error ⟨start, some n⟩
    | (.cut, _) => .error ⟨start, none⟩
termination_by bs.length
decreasing_by
  have := first_length a r
  simp_all only [List.length_cons]
  omega

/-- The characters that the bytes encode, or the first fault. -/
def decodeChars (bs : List UInt8) : Except Fault (List Char) := decodeFrom 0 [] bs

/-- The text that the bytes encode, or the first fault. -/
def decode (bs : List UInt8) : Except Fault String :=
  match decodeChars bs with
  | .ok cs => .ok (String.ofList cs)
  | .error f => .error f

/-- The characters read before, in reverse, followed by those of the bytes, with U+FFFD for
every piece that is not a character. -/
def decodeLossyFrom (before : List Char) (bs : List UInt8) : List Char :=
  match bs with
  | [] => before.reverse
  | a :: r =>
    match _h : first a r with
    | (.char c, rest) => decodeLossyFrom (c :: before) rest
    | (_, rest) => decodeLossyFrom (Char.ofNat 0xFFFD :: before) rest
termination_by bs.length
decreasing_by
  all_goals
    have := first_length a r
    simp_all only [List.length_cons]
    omega

/-- The text that the bytes encode, with U+FFFD for every piece that is not a character. -/
def decodeLossy (bs : List UInt8) : String := String.ofList (decodeLossyFrom [] bs)

end VaultAccess.Text.Utf8
