import VaultAccess.Decode.Record
import VaultAccess.Yaml.Node

/-!
# Reading records from YAML nodes

A plain scalar is whatever is asked for: a text, a flag, a number, or nothing. The empty plain
scalar is also an empty list, table and record. All faults count the same.
-/
namespace VaultAccess.Yaml

open Decode
open Text (digitsIn?)

/-- The words for nothing. -/
def isNullWord (s : String) : Bool := ["null", "Null", "NULL", "~"].contains s

/-- The words for flags. -/
def flagOf? (s : String) : Option Bool :=
  if ["true", "True", "TRUE"].contains s then some true
  else if ["false", "False", "FALSE"].contains s then some false
  else none

/-- A number without a sign but a plus, in decimal, hexadecimal, octal or binary digits. A decimal
number has no superfluous zeros. -/
def wordOf? (s : String) : Option UInt64 :=
  let cs := match s.toList with
    | '+' :: rest => rest
    | cs => cs
  let n? := match cs with
    | '0' :: 'x' :: rest => digitsIn? 16 rest
    | '0' :: 'o' :: rest => digitsIn? 8 rest
    | '0' :: 'b' :: rest => digitsIn? 2 rest
    | '0' :: _ :: _ => none
    | cs => digitsIn? 10 cs
  (n?.filter (· < Nat.pow 2 64)).map UInt64.ofNat

/-- The text of a scalar that may be a value of the tagged type. -/
def valueText (type : String) : Node → Except Unit String
  | .scalar text .plain _ => .ok text
  | .scalar text .literal (some tag) =>
    if tag = "tag:yaml.org,2002:" ++ type then .ok text else .error ()
  | _ => .error ()

def textOf : Node → Except Unit String
  | .scalar text _ _ => .ok text
  | _ => .error ()

/-- Whether a scalar is plain and empty. -/
def isEmpty : Node → Bool
  | .scalar "" .plain _ => true
  | _ => false

/-- The pairs of a mapping whose keys are scalars. -/
def named (pairs : List (Node × Node)) : Except Unit (List (String × Node)) :=
  pairs.mapM fun (k, v) => (textOf k).map fun k => (k, v)

/-- The pairs of a mapping, or of nothing. -/
def tableOf (n : Node) : Except Unit (List (String × Node)) :=
  match n with
  | .mapping pairs => named pairs
  | n => if isEmpty n then .ok [] else .error ()

/-- A choice is a scalar, or a tag on nothing. -/
def choiceOf : Node → Except Unit (String × Except Unit Unit)
  | .scalar text style (some tag) =>
    match tag.toList with
    | '!' :: rest =>
      let isNothing := style == .plain && (text == "" || isNullWord text)
      .ok (if rest = [] then tag else String.ofList rest, if isNothing then .ok () else .error ())
    | _ => .ok (text, .ok ())
  | .scalar text _ none => .ok (text, .ok ())
  | _ => .error ()

/-- How YAML nodes spell the basic shapes. -/
def dialect : Dialect Node Unit where
  text := textOf
  flag n := do
    let s ← valueText "bool" n
    (flagOf? s).elim (.error ()) .ok
  word _ n := do
    let s ← valueText "int" n
    (wordOf? s).elim (.error ()) .ok
  isNothing
    | .scalar text .plain none => text == "" || isNullWord text
    | .scalar text .plain (some tag) => tag == "tag:yaml.org,2002:null" && isNullWord text
    | _ => false
  list
    | .sequence items => .ok items
    | n => if isEmpty n then .ok [] else .error ()
  table := tableOf
  choice := choiceOf
  record _ n := (tableOf n).map .named
  missing _ := ()
  duplicate _ := ()
  unknown _ _ := ()
  short _ _ _ := ()
  long _ := .ok ()

end VaultAccess.Yaml
