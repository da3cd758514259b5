import VaultAccess.Json.Mismatch
import VaultAccess.Decode.Record

/-!
# Reading records from JSON values

Members are visited in the order of the object, and the first that cannot be read is reported;
absent fields come after that, in the order of their declaration.
-/
namespace VaultAccess.Json

open Decode

/-- A value of another type than expected. -/
def unexpected {α : Type} (v : Json) (expected : String) : Except Mismatch α :=
  .error (.invalidType (Found.ofJson v) expected)

/-- A value that must be null. -/
def readUnit : Json → Except Mismatch Unit
  | .null => .ok ()
  | v => unexpected v "unit"

/-- A choice is a name, or an object whose one key is the name and whose value is null. -/
def readChoice : Json → Except Mismatch (String × Except Mismatch Unit)
  | .str s => .ok (s, .ok ())
  | .obj [(key, v)] => .ok (key, readUnit v)
  | .obj _ => .error (.invalidValue .map "map with a single key")
  | v => unexpected v "string or map"

/-- How JSON values spell the basic shapes. -/
def dialect : Dialect Json Mismatch where
  text
    | .str s => .ok s
    | v => unexpected v "a string"
  flag
    | .bool b => .ok b
    | v => unexpected v "a boolean"
  word name
    | .num (.int n) =>
      if 0 ≤ n then .ok (UInt64.ofNat n.toNat)
      else .error (.invalidValue (.num (.int n)) name)
    | v => unexpected v name
  isNothing
    | .null => true
    | _ => false
  list
    | .arr items => .ok items
    | v => unexpected v "a sequence"
  table
    | .obj members => .ok members
    | v => unexpected v "a map"
  choice := readChoice
  record name
    | .obj members => .ok (.named members)
    | .arr items => .ok (.listed items)
    | v => unexpected v name
  missing := .missingField
  duplicate := .duplicateField
  unknown := .unknownVariant
  short n name total := .invalidLength n (recordLength name total)
  long n := .error (.invalidLength n "fewer elements in array")

/-- A value as it is. -/
def readAny (v : Json) : Except Mismatch Json := .ok v

end VaultAccess.Json
