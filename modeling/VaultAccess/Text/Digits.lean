/-!
# Numbers written in digits
-/
namespace VaultAccess.Text

/-- The value of a digit in a radix up to sixteen; letters of both cases count. -/
def digitIn? (radix : Nat) (c : Char) : Option Nat :=
  let n := c.toNat
  let value? :=
    if 48 ≤ n ∧ n ≤ 57 then some (n - 48)
    else if 65 ≤ n ∧ n ≤ 70 then some (n - 55)
    else if 97 ≤ n ∧ n ≤ 102 then some (n - 87)
    else none
  value?.filter (· < radix)

/-- Whether a character is a hexadecimal digit. -/
def isHexDigit (c : Char) : Bool := (digitIn? 16 c).isSome

/-- The number that characters write in a radix if all of them are digits; no digits write zero. -/
def numberIn? (radix : Nat) (cs : List Char) : Option Nat :=
  cs.foldlM (fun acc c => (digitIn? radix c).map fun d => radix * acc + d) 0

/-- The number that one or more digits write. -/
def digitsIn? (radix : Nat) (cs : List Char) : Option Nat :=
  if cs = [] then none else numberIn? radix cs

end VaultAccess.Text
