import VaultAccess.Text.Invisible

/-!
# Texts quoted in messages

A text in a message stands between double quotes. Tab, newline, carriage return, NUL, the quote
and the backslash have short escapes; what would not be visible is written by its code point.
-/
namespace VaultAccess.Text.Quoted

/-- The lower-case hexadecimal digits of a number. -/
def hex (n : Nat) : List Char := Nat.toDigits 16 n

/-- The quoted form of one character. -/
def escape (c : Char) : List Char :=
  if c = '\x00' then ['\\', '0']
  else if c = '\t' then ['\\', 't']
  else if c = '\n' then ['\\', 'n']
  else if c = '\r' then ['\\', 'r']
  else if c = '"' then ['\\', '"']
  else if c = '\\' then ['\\', '\\']
  else if c.toNat < 0x7F && 0x20 ≤ c.toNat then [c]
  else if Invisible.covers Invisible.extending c.toNat ||
      Invisible.covers Invisible.unprintable c.toNat then
    ['\\', 'u', '\x7b'] ++ hex c.toNat ++ ['\x7d']
  else [c]

/-- The quoted form of a text. -/
def quote (s : String) : String := String.ofList (['"'] ++ s.toList.flatMap escape ++ ['"'])

end VaultAccess.Text.Quoted
