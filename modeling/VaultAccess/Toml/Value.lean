/-!
# TOML values

A document is a table. How a table came to be says how it may grow: by a header of its own, on the
way to another table, by a dotted key, or between braces.
-/
namespace VaultAccess.Toml

/-- How a table came to be. -/
inductive Origin where
  | header
  | implied
  | dotted
  | inline
  deriving DecidableEq, Repr

/-- A TOML value. A float is of no interest here. -/
inductive Value where
  | text (s : String)
  | int (n : Int)
  | float
  | flag (b : Bool)
  /-- A date or a time in its standard form. -/
  | moment (s : String)
  | array (items : List Value)
  | table (origin : Origin) (entries : List (String × Value))
  /-- Tables that headers in double brackets add one by one. -/
  | tables (elements : List (List (String × Value)))
  deriving Repr, Inhabited

/-- The entries of a table. -/
abbrev Entries := List (String × Value)

namespace Entries

/-- Put a value in the place of the one that a key has. -/
def replace (es : Entries) (key : String) (v : Value) : Entries :=
  es.map fun e => if e.1 = key then (key, v) else e

/-- The entries after a change of those at the end of a path. Tables are made on the way; a dotted
path does not lead into a table with a header, and no path into one between braces. -/
def change (isDotted : Bool) (origin : Origin) (es : Entries) (path : List String)
    (f : Origin → Entries → Option Entries) : Option Entries :=
  match path with
  | [] => f origin es
  | key :: rest =>
    match es.lookup key with
    | none =>
      let made := if isDotted then Origin.dotted else .implied
      (change isDotted made [] rest f).map fun inner => es ++ [(key, .table made inner)]
    | some (.table .inline _) => none
    | some (.table inner entries) =>
      if isDotted ∧ inner = .header then none
      else (change isDotted inner entries rest f).map fun new => es.replace key (.table inner new)
    | some (.tables elements) =>
      (change isDotted .header (elements.getLastD []) rest f).map fun new =>
        es.replace key (.tables (elements.dropLast ++ [new]))
    | some _ => none

/-- Add a value under a key that is new. -/
def add? (es : Entries) (key : String) (v : Value) : Option Entries :=
  if (es.lookup key).isSome then none else some (es ++ [(key, v)])

/-- Add a value at the end of a dotted path. -/
def assign? (origin : Origin) (es : Entries) (path : List String) (v : Value) : Option Entries :=
  match path.getLast? with
  | none => none
  | some key =>
    es.change true origin path.dropLast fun reached inner =>
      if path.length = 1 ∨ reached = .dotted then inner.add? key v else none

/-- Begin the table of a header. -/
def open? (es : Entries) (path : List String) : Option Entries :=
  match path.getLast? with
  | none => none
  | some key =>
    es.change false .header path.dropLast fun _ inner =>
      match inner.lookup key with
      | none => some (inner ++ [(key, .table .header [])])
      | some (.table .implied entries) => some (inner.replace key (.table .header entries))
      | some _ => none

/-- Begin another table of a header in double brackets. -/
def append? (es : Entries) (path : List String) : Option Entries :=
  match path.getLast? with
  | none => none
  | some key =>
    es.change false .header path.dropLast fun _ inner =>
      match inner.lookup key with
      | none => some (inner ++ [(key, .tables [[]])])
      | some (.tables elements) => some (inner.replace key (.tables (elements ++ [[]])))
      | some _ => none

end Entries

end VaultAccess.Toml
