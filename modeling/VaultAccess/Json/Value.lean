import VaultAccess.Number.Binary64

/-!
# JSON values

Numbers are integers of 64 bits, signed or unsigned, or binary floating point. An object keeps
its members in the order they were put in; texts are read into objects whose keys ascend and
occur once.
-/
namespace VaultAccess

/-- A JSON number. -/
inductive Json.Number where
  | int (n : Int)
  | float (x : Number.Binary64)
  deriving DecidableEq, Repr, Inhabited

/-- A JSON value. -/
inductive Json where
  | null
  | bool (b : Bool)
  | num (n : Json.Number)
  | str (s : String)
  | arr (items : List Json)
  | obj (members : List (String × Json))
  deriving Repr, Inhabited

namespace Json

/-- The members of an object, in order. -/
abbrev Members := List (String × Json)

def ofNat (n : Nat) : Json := .num (.int n)

def ofStrings (texts : List String) : Json := .arr (texts.map .str)

/-- Put a member into ascending members, in place of one with the same key. -/
def insertMember {α : Type} (key : String) (value : α) :
    List (String × α) → List (String × α)
  | [] => [(key, value)]
  | (k, v) :: rest =>
    if key < k then (key, value) :: (k, v) :: rest
    else if key = k then (key, value) :: rest
    else (k, v) :: insertMember key value rest

/-- The members by ascending key; of several with one key the last stays. -/
def sortMembers {α : Type} (members : List (String × α)) : List (String × α) :=
  members.foldl (fun sorted m => insertMember m.1 m.2 sorted) []

/-- The object with the given members, by ascending key. -/
def ofMembers (members : Members) : Json := .obj (sortMembers members)

/-- An object of texts. -/
def ofTexts (members : List (String × String)) : Json :=
  .obj (members.map fun m => (m.1, .str m.2))

/-- The member of an object, if the value is an object that has it. -/
def get? (key : String) : Json → Option Json
  | .obj members => members.lookup key
  | _ => none

end Json

end VaultAccess
