import VaultAccess.Text.Utf8

/-!
# Percent-encoding of names

A name becomes one path segment: letters, digits and `-`, `.`, `_`, `~` stay, every other byte of
its UTF-8 form is written `%XX` with upper-case digits. Reading also takes lower-case digits and
keeps a `%` that no two digits follow.
-/
namespace VaultAccess.Text.Percent

/-- The bytes that stay as they are. -/
def isPlain (b : UInt8) : Bool :=
  (48 ≤ b && b ≤ 57) || (65 ≤ b && b ≤ 90) || (97 ≤ b && b ≤ 122) ||
    b == 45 || b == 46 || b == 95 || b == 126

/-- The upper-case hexadecimal digit of `n`, for `n < 16`. -/
def hexDigit (n : Nat) : UInt8 := UInt8.ofNat (if n < 10 then 48 + n else 55 + n)

/-- The value of a hexadecimal digit of either case. -/
def hexValue? (b : UInt8) : Option Nat :=
  let n := b.toNat
  if 48 ≤ n ∧ n ≤ 57 then some (n - 48)
  else if 65 ≤ n ∧ n ≤ 70 then some (n - 55)
  else if 97 ≤ n ∧ n ≤ 102 then some (n - 87)
  else none

/-- The escape of a byte. -/
def escape (b : UInt8) : List UInt8 := [37, hexDigit (b.toNat / 16), hexDigit (b.toNat % 16)]

/-- The written form of bytes. -/
def encodeBytes (bs : List UInt8) : List UInt8 :=
  bs.flatMap fun b => if isPlain b then [b] else escape b

/-- The bytes that a written form stands for. -/
def decodeBytes : List UInt8 → List UInt8
  | [] => []
  | 37 :: x :: y :: rest =>
    match hexValue? x, hexValue? y with
    | some h, some l => UInt8.ofNat (16 * h + l) :: decodeBytes rest
    | _, _ => 37 :: decodeBytes (x :: y :: rest)
  | b :: rest => b :: decodeBytes rest

/-- A text of ASCII bytes. -/
def ofAscii (bs : List UInt8) : String := String.ofList (bs.map fun b => Char.ofNat b.toNat)

/-- The name as one path segment. -/
def encode (name : String) : String := ofAscii (encodeBytes (Utf8.encode name))

/-- The name that a segment stands for, unless its bytes are not UTF-8. -/
def decode (segment : String) : Except Utf8.Fault String :=
  Utf8.decode (decodeBytes (Utf8.encode segment))

end VaultAccess.Text.Percent
