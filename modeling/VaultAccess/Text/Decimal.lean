/-!
# Decimal text of machine words

A word is written with the fewest decimal digits. Reading takes any number of digits and
one plus sign in front, and refuses what does not fit into 64 bits.
-/
namespace VaultAccess.Text.Decimal

/-- The number of values of a machine word. -/
def wordLimit : Nat := Nat.pow 2 64

/-- The value of a decimal digit. -/
def digit? (c : Char) : Option Nat :=
  if '0' ≤ c ∧ c ≤ '9' then some (c.toNat - 48) else none

/-- The number that digits write after the number `acc`. -/
def readDigits (acc : Nat) : List Char → Option Nat
  | [] => some acc
  | c :: rest =>
    match digit? c with
    | some d => readDigits (10 * acc + d) rest
    | none => none

/-- The digits of a text without the plus sign it may start with. -/
def digits : List Char → List Char
  | '+' :: rest => rest
  | cs => cs

/-- The word that a text writes. -/
def word? (s : String) : Option Nat :=
  match digits s.toList with
  | [] => none
  | cs =>
    match readDigits 0 cs with
    | some n => if n < wordLimit then some n else none
    | none => none

/-- The decimal text of a number. -/
def write (n : Nat) : String := String.ofList (Nat.toDigits 10 n)

end VaultAccess.Text.Decimal
