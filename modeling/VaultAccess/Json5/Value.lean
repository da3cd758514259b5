import VaultAccess.Number.Binary64

/-!
# JSON5 values

What a JSON5 text writes. Numbers keep enough of their spelling to be read as whole numbers or as
binary floating point. A text with half of a surrogate pair has no value, which matters only where
it is asked for.
-/
namespace VaultAccess.Json5

open Number (Binary64)

/-- A number as it is written. -/
inductive Numeral where
  | infinity (isNegative : Bool)
  | notANumber
  /-- A hexadecimal number without a sign. -/
  | hexadecimal (n : Nat)
  /-- The number `n * 10 ^ e`; a whole one has neither point nor exponent. -/
  | decimal (isNegative : Bool) (n : Nat) (e : Int) (isWhole : Bool)
  /-- A sign before something that takes none. -/
  | misplacedSign
  deriving DecidableEq, Repr

/-- A JSON5 value. -/
inductive Value where
  | null
  | bool (b : Bool)
  | num (n : Numeral)
  | str (s : Option String)
  | arr (items : List Value)
  | obj (members : List (Option String × Value))
  deriving Repr, Inhabited

namespace Numeral

/-- Whether the number has a value: whole numbers have 64 bits with a sign, hexadecimal ones 32
without, and others are finite. -/
def isSound : Numeral → Bool
  | infinity _ => true
  | notANumber => true
  | hexadecimal n => n < Nat.pow 2 32
  | decimal isNegative n e isWhole =>
    if isWhole then n < Nat.pow 2 63 || (isNegative && n == Nat.pow 2 63) else (Binary64.ofDecimal n e).isFinite
  | misplacedSign => false

/-- The number as a machine word: it is read as binary floating point, its fraction dropped, and
clamped. -/
def toWord? : Numeral → Option UInt64
  | infinity true => some 0
  | infinity false => some Binary64.infinity.toWord
  | notANumber => some 0
  | hexadecimal n => if n < Nat.pow 2 32 then some (UInt64.ofNat n) else none
  | decimal isNegative n e _ =>
    let x := Binary64.ofDecimal n e
    if !x.isFinite then none else some (if isNegative then 0 else x.toWord)
  | misplacedSign => none

end Numeral

end VaultAccess.Json5
