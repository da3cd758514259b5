import VaultAccess.Json.Raw

/-!
# Reading JSON text

The value of a text: its strings and numbers must mean something, lists and objects may be nested
127 deep, and of several members with one key the last counts.
-/
namespace VaultAccess.Json

/-- How deep lists and objects may be nested. -/
def maxDepth : Nat := 127

namespace Raw

mutual

/-- The value of a raw document with at most `depth` nested lists and objects. -/
def meaning (depth : Nat) : Raw → Option Json
  | .null => some .null
  | .bool b => some (.bool b)
  | .num lexeme => (number? lexeme).map .num
  | .str lexeme => (text? lexeme).map .str
  | .arr raws =>
    match depth with
    | 0 => none
    | depth + 1 => (meaningItems depth raws).map .arr
  | .obj raws =>
    match depth with
    | 0 => none
    | depth + 1 => (meaningMembers depth raws).map Json.ofMembers

def meaningItems (depth : Nat) : List Raw → Option (List Json)
  | [] => some []
  | r :: rs =>
    match meaning depth r, meaningItems depth rs with
    | some v, some vs => some (v :: vs)
    | _, _ => none

def meaningMembers (depth : Nat) : List (List UInt8 × Raw) → Option (List (String × Json))
  | [] => some []
  | (k, r) :: rs =>
    match text? k, meaning depth r, meaningMembers depth rs with
    | some k, some v, some vs => some ((k, v) :: vs)
    | _, _, _ => none

end

end Raw

/-- The value that a JSON text writes. -/
def ofBytes? (text : List UInt8) : Option Json :=
  match Raw.ofText text with
  | .ok raw => raw.meaning maxDepth
  | .error _ => none

/-- The value that a JSON text writes. -/
def ofText? (text : String) : Option Json := ofBytes? (Text.Utf8.encode text)

end VaultAccess.Json
