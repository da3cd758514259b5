import VaultAccess.Decode.Record
import VaultAccess.Json.Reader

/-!
# Reading records from raw documents

Only what is asked for has to mean something; all else has its form already. All faults count the
same.
-/
namespace VaultAccess.Json.Raw

open Decode

mutual

/-- Whether lists and objects are nested at most `depth` deep. -/
def fits (depth : Nat) : Raw → Bool
  | .arr items =>
    match depth with
    | 0 => false
    | depth + 1 => allFit depth items
  | .obj members =>
    match depth with
    | 0 => false
    | depth + 1 => allMembersFit depth members
  | _ => true

def allFit (depth : Nat) : List Raw → Bool
  | [] => true
  | r :: rest => fits depth r && allFit depth rest

def allMembersFit (depth : Nat) : List (List UInt8 × Raw) → Bool
  | [] => true
  | (_, r) :: rest => fits depth r && allMembersFit depth rest

end

/-- The document that a text holds, unless it is nested too deep. -/
def ofText? (text : String) : Option Raw :=
  match ofText (Text.Utf8.encode text) with
  | .ok raw => if raw.fits maxDepth then some raw else none
  | .error _ => none

/-- Members whose keys mean something. -/
def namedMembers (members : List (List UInt8 × Raw)) : Except Unit (List (String × Raw)) :=
  members.mapM fun (key, v) => (text? key).elim (.error ()) fun key => .ok (key, v)

/-- How raw documents spell the basic shapes. -/
def dialect : Dialect Raw Unit where
  text
    | .str lexeme => (text? lexeme).elim (.error ()) .ok
    | _ => .error ()
  flag
    | .bool b => .ok b
    | _ => .error ()
  word _
    | .num lexeme =>
      match number? lexeme with
      | some (.int n) => if 0 ≤ n then .ok (UInt64.ofNat n.toNat) else .error ()
      | _ => .error ()
    | _ => .error ()
  isNothing
    | .null => true
    | _ => false
  list
    | .arr items => .ok items
    | _ => .error ()
  table
    | .obj members => namedMembers members
    | _ => .error ()
  choice
    | .str lexeme => (text? lexeme).elim (.error ()) fun s => .ok (s, .ok ())
    | .obj [(key, .null)] => (text? key).elim (.error ()) fun s => .ok (s, .ok ())
    | _ => .error ()
  record _
    | .obj members => (namedMembers members).map .named
    | .arr items => .ok (.listed items)
    | _ => .error ()
  missing _ := ()
  duplicate _ := ()
  unknown _ _ := ()
  short _ _ _ := ()
  long _ := .error ()

end VaultAccess.Json.Raw
