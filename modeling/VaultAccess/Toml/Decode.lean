import VaultAccess.Decode.Record
import VaultAccess.Toml.Document

/-!
# Reading records from TOML values

A date is also a table with one entry of a reserved name. All faults count the same.
-/
namespace VaultAccess.Toml

open Decode

/-- The reserved name under which a date is a table. -/
def momentKey : String := "$__toml_private_datetime"

/-- The entries of whatever is a table. -/
def entriesOf? : Value → Option Entries
  | .table _ entries => some entries
  | .moment s => some [(momentKey, .text s)]
  | _ => none

/-- The items of whatever is a list. -/
def itemsOf? : Value → Option (List Value)
  | .array items => some items
  | .tables elements => some (elements.map (.table .header))
  | _ => none

/-- Whether a value is an empty list or table. -/
def isEmpty : Value → Bool
  | .array items => items.isEmpty
  | .table _ entries => entries.isEmpty
  | _ => false

/-- How TOML values spell the basic shapes. A choice may be the only key of a table, whose value
is empty. -/
def dialect : Dialect Value Unit where
  text
    | .text s => .ok s
    | _ => .error ()
  flag
    | .flag b => .ok b
    | _ => .error ()
  word _
    | .int n => if 0 ≤ n then .ok (UInt64.ofNat n.toNat) else .error ()
    | _ => .error ()
  isNothing _ := false
  list v := (itemsOf? v).elim (.error ()) .ok
  table v := (entriesOf? v).elim (.error ()) .ok
  choice
    | .text s => .ok (s, .ok ())
    | .table _ [(key, v)] => .ok (key, if isEmpty v then .ok () else .error ())
    | _ => .error ()
  record _ v :=
    match entriesOf? v, itemsOf? v with
    | some entries, _ => .ok (.named entries)
    | none, some items => .ok (.listed items)
    | none, none => .error ()
  missing _ := ()
  duplicate _ := ()
  unknown _ _ := ()
  short _ _ _ := ()
  long _ := .ok ()

end VaultAccess.Toml
