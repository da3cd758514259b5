import VaultAccess.Decode.Record
import VaultAccess.Json5.Scan

/-!
# Reading records from JSON5 values

Values under names that are no fields have to have a value too. All faults count the same.
-/
namespace VaultAccess.Json5

open Decode

mutual

/-- Whether all texts and numbers in a value have a value. -/
def Value.isSound : Value → Bool
  | .null => true
  | .bool _ => true
  | .num n => n.isSound
  | .str s => s.isSome
  | .arr items => areSound items
  | .obj members => membersAreSound members

def areSound : List Value → Bool
  | [] => true
  | v :: rest => v.isSound && areSound rest

def membersAreSound : List (Option String × Value) → Bool
  | [] => true
  | (key, v) :: rest => key.isSome && v.isSound && membersAreSound rest

end

/-- Members whose keys have values. -/
def namedMembers (members : List (Option String × Value)) : Except Unit (List (String × Value)) :=
  members.mapM fun
    | (some key, v) => .ok (key, v)
    | (none, _) => .error ()

/-- How JSON5 values spell the basic shapes. A choice may be the first key of an object, whose
value is null. -/
def dialect : Dialect Value Unit where
  text
    | .str (some s) => .ok s
    | _ => .error ()
  flag
    | .bool b => .ok b
    | _ => .error ()
  word _
    | .num n => n.toWord?.elim (.error ()) .ok
    | _ => .error ()
  isNothing
    | .null => true
    | _ => false
  list
    | .arr items => .ok items
    | _ => .error ()
  table
    | .obj members => namedMembers members
    | _ => .error ()
  choice
    | .str (some s) => .ok (s, .ok ())
    | .obj ((some key, .null) :: _) => .ok (key, .ok ())
    | _ => .error ()
  record _
    | .obj members => (namedMembers members).map .named
    | .arr items => .ok (.listed items)
    | _ => .error ()
  missing _ := ()
  duplicate _ := ()
  unknown _ _ := ()
  short _ _ _ := ()
  long _ := .ok ()
  skip v := if v.isSound then .ok () else .error ()

end VaultAccess.Json5
