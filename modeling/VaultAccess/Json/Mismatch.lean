import VaultAccess.Json.Writer
import VaultAccess.Text.Quoted

/-!
# Values of the wrong shape

Why a well-formed value is not what was asked for, and how that is worded.
-/
namespace VaultAccess

/-- What stands where something else was asked for. -/
inductive Found where
  | null
  | bool (b : Bool)
  | num (n : Json.Number)
  | str (s : String)
  | seq
  | map
  deriving DecidableEq, Repr

/-- Why a value does not have the shape that was asked for. -/
inductive Mismatch where
  | invalidType (found : Found) (expected : String)
  | invalidValue (found : Found) (expected : String)
  | invalidLength (length : Nat) (expected : String)
  | unknownVariant (name : String) (names : List String)
  | missingField (name : String)
  | duplicateField (name : String)
  deriving DecidableEq, Repr

/-- The wording of what was found. -/
def Found.describe : Found → String
  | .null => "null"
  | .bool b => "boolean `" ++ (if b then "true" else "false") ++ "`"
  | .num (.int n) => "integer `" ++ (Json.Number.int n).text ++ "`"
  | .num (.float x) => "floating point `" ++ x.text ++ "`"
  | .str s => "string " ++ Text.Quoted.quote s
  | .seq => "sequence"
  | .map => "map"

/-- The names that would have been accepted. -/
def nameChoice : List String → String
  | [a] => "expected `" ++ a ++ "`"
  | [a, b] => "expected `" ++ a ++ "` or `" ++ b ++ "`"
  | names => "expected one of " ++ ", ".intercalate (names.map fun n => "`" ++ n ++ "`")

/-- The wording of a mismatch. -/
def Mismatch.message : Mismatch → String
  | .invalidType found expected =>
    "invalid type: " ++ found.describe ++ ", expected " ++ expected
  | .invalidValue found expected =>
    "invalid value: " ++ found.describe ++ ", expected " ++ expected
  | .invalidLength n expected => "invalid length " ++ toString n ++ ", expected " ++ expected
  | .unknownVariant name names => "unknown variant `" ++ name ++ "`, " ++ nameChoice names
  | .missingField name => "missing field `" ++ name ++ "`"
  | .duplicateField name => "duplicate field `" ++ name ++ "`"

/-- What a JSON value is found to be. -/
def Found.ofJson : Json → Found
  | .null => .null
  | .bool b => .bool b
  | .num n => .num n
  | .str s => .str s
  | .arr _ => .seq
  | .obj _ => .map

/-- A counted noun phrase: a record and how many elements its list form has. -/
def recordLength (record : String) (n : Nat) : String :=
  record ++ " with " ++ toString n ++ (if n = 1 then " element" else " elements")

end VaultAccess
