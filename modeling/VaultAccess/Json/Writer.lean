import VaultAccess.Json.Value
import VaultAccess.Number.Shortest
import VaultAccess.Text.Decimal

/-!
# JSON text

Two layouts: compact, without any blank, and indented by two spaces. In strings only the quote,
the backslash and the control characters below U+0020 are escaped.
-/
namespace VaultAccess.Json

/-- The lower-case hexadecimal digit of `n`, for `n < 16`. -/
def hexDigit (n : Nat) : Char := Char.ofNat (if n < 10 then 48 + n else 87 + n)

/-- A character inside a written string. -/
def escapeChar (c : Char) : List Char :=
  if c = '"' then ['\\', '"']
  else if c = '\\' then ['\\', '\\']
  else if c = '\x08' then ['\\', 'b']
  else if c = '\x0c' then ['\\', 'f']
  else if c = '\n' then ['\\', 'n']
  else if c = '\r' then ['\\', 'r']
  else if c = '\t' then ['\\', 't']
  else if c.toNat < 32 then
    ['\\', 'u', '0', '0', hexDigit (c.toNat / 16), hexDigit (c.toNat % 16)]
  else [c]

/-- A written string. -/
def quote (s : String) : List Char := ['"'] ++ s.toList.flatMap escapeChar ++ ['"']

def Number.text : Number → String
  | .int n => if n < 0 then "-" ++ Text.Decimal.write n.natAbs else Text.Decimal.write n.natAbs
  | .float x => x.text

mutual

/-- The compact text of a value. -/
def compact : Json → List Char
  | .null => "null".toList
  | .bool true => "true".toList
  | .bool false => "false".toList
  | .num n => n.text.toList
  | .str s => quote s
  | .arr [] => ['[', ']']
  | .arr (v :: vs) => '[' :: compact v ++ compactItems vs
  | .obj [] => ['\x7b', '\x7d']
  | .obj ((k, v) :: ms) => '\x7b' :: quote k ++ ':' :: compact v ++ compactMembers ms

/-- The rest of a list after an item. -/
def compactItems : List Json → List Char
  | [] => [']']
  | v :: vs => ',' :: compact v ++ compactItems vs

/-- The rest of an object after a member. -/
def compactMembers : List (String × Json) → List Char
  | [] => ['\x7d']
  | (k, v) :: ms => ',' :: quote k ++ ':' :: compact v ++ compactMembers ms

end

/-- A line break and `depth` steps of indentation. -/
def newline (depth : Nat) : List Char := '\n' :: List.replicate (2 * depth) ' '

mutual

/-- The indented text of a value at a depth. -/
def indented (depth : Nat) : Json → List Char
  | .null => "null".toList
  | .bool true => "true".toList
  | .bool false => "false".toList
  | .num n => n.text.toList
  | .str s => quote s
  | .arr [] => ['[', ']']
  | .arr (v :: vs) => '[' :: newline (depth + 1) ++ indented (depth + 1) v ++ indentedItems depth vs
  | .obj [] => ['\x7b', '\x7d']
  | .obj ((k, v) :: ms) =>
    '\x7b' :: newline (depth + 1) ++ quote k ++ [':', ' '] ++ indented (depth + 1) v ++
      indentedMembers depth ms

/-- The rest of a list after an item. -/
def indentedItems (depth : Nat) : List Json → List Char
  | [] => newline depth ++ [']']
  | v :: vs => ',' :: newline (depth + 1) ++ indented (depth + 1) v ++ indentedItems depth vs

/-- The rest of an object after a member. -/
def indentedMembers (depth : Nat) : List (String × Json) → List Char
  | [] => newline depth ++ ['\x7d']
  | (k, v) :: ms =>
    ',' :: newline (depth + 1) ++ quote k ++ [':', ' '] ++ indented (depth + 1) v ++
      indentedMembers depth ms

end

/-- The text of a value on one line. -/
def toText (v : Json) : String := String.ofList v.compact

/-- The text of a value on indented lines. -/
def toPrettyText (v : Json) : String := String.ofList (v.indented 0)

end VaultAccess.Json
