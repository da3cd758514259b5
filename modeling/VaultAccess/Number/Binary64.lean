/-!
# Binary floating point of 64 bits

A number is its 64 bits. All arithmetic is exact on natural numbers and rounded once, to the
nearest value with ties to the even significand; what is too large becomes an infinity.
-/
namespace VaultAccess.Number

/-- A binary floating-point number of 64 bits. -/
structure Binary64 where
  bits : UInt64
  deriving DecidableEq, Repr, Inhabited

namespace Binary64

/-- The bit pattern of the positive infinity; patterns above it are not numbers. -/
def infinityBits : Nat := 0x7FF * Nat.pow 2 52

/-- The pattern without its sign. -/
def magnitudeBits (x : Binary64) : Nat := x.bits.toNat % Nat.pow 2 63

def isNegative (x : Binary64) : Bool := Nat.pow 2 63 ≤ x.bits.toNat

def isFinite (x : Binary64) : Bool := x.magnitudeBits < infinityBits

def isZero (x : Binary64) : Bool := x.magnitudeBits == 0

/-- The number with the given sign and magnitude pattern. -/
def ofBits (negative : Bool) (magnitude : Nat) : Binary64 :=
  ⟨UInt64.ofNat (magnitude + if negative then Nat.pow 2 63 else 0)⟩

def zero : Binary64 := ofBits false 0

def infinity : Binary64 := ofBits false infinityBits

/-- A number that is no number. -/
def nan : Binary64 := ofBits false (infinityBits + Nat.pow 2 51)

def neg (x : Binary64) : Binary64 := ofBits (!x.isNegative) x.magnitudeBits

/-- The significand `m` and exponent `q` of a finite magnitude `m * 2 ^ q`. -/
def decompose (x : Binary64) : Nat × Int :=
  let exponent : Nat := x.magnitudeBits / Nat.pow 2 52
  let fraction : Nat := x.magnitudeBits % Nat.pow 2 52
  if exponent = 0 then (fraction, -1074) else (fraction + Nat.pow 2 52, (exponent : Int) - 1075)

/-- `n * 2 ^ k / d` as a numerator and a denominator. -/
def scale (n d : Nat) (k : Int) : Nat × Nat :=
  if 0 ≤ k then (n * Nat.pow 2 k.toNat, d) else (n, d * Nat.pow 2 (-k).toNat)

/-- The nearest integer of a quotient, ties to even. -/
def roundQuotient (n d : Nat) : Nat :=
  let q := n / d
  let twice := 2 * (n % d)
  if twice < d then q else if d < twice then q + 1 else q + q % 2

/-- The magnitude pattern nearest to the positive quotient `n / d`. -/
def nearestBits (n d : Nat) : Nat :=
  let guess : Int := (Nat.log2 n : Int) - Nat.log2 d
  let atGuess := scale n d (-guess)
  let exponent := if atGuess.1 < atGuess.2 then guess - 1 else guess
  let unit := max (exponent - 52) (-1074)
  if 2000 < unit then infinityBits
  else
    let scaled := scale n d (-unit)
    min infinityBits ((unit + 1074).toNat * Nat.pow 2 52 + roundQuotient scaled.1 scaled.2)

/-- The number nearest to the quotient `n / d`, negated if `negative`. -/
def ofRatio (negative : Bool) (n d : Nat) : Binary64 :=
  ofBits negative (if n = 0 then 0 else nearestBits n d)

def ofNat (n : Nat) : Binary64 := ofRatio false n 1

/-- The number nearest to `n * 10 ^ e`. -/
def ofDecimal (n : Nat) (e : Int) : Binary64 :=
  if n = 0 then zero
  else if 400 < e then infinity
  else if e + (Nat.log2 n : Int) < -2000 then zero
  else if 0 ≤ e then ofRatio false (n * Nat.pow 10 e.toNat) 1
  else ofRatio false n (Nat.pow 10 (-e).toNat)

/-- The product of two magnitudes, of which the second is finite and positive. -/
def mulMagnitude (x y : Binary64) : Binary64 :=
  if !x.isFinite then infinity
  else
    let (m, p) := x.decompose
    let (n, q) := y.decompose
    let r := scale (m * n) 1 (p + q)
    ofRatio false r.1 r.2

/-- The quotient of two magnitudes, of which the second is finite and positive. -/
def divMagnitude (x y : Binary64) : Binary64 :=
  if !x.isFinite then infinity
  else
    let (m, p) := x.decompose
    let (n, q) := y.decompose
    let r := scale m n (p - q)
    ofRatio false r.1 r.2

/-- The integer part of the magnitude of a finite number. -/
def floorMagnitude (x : Binary64) : Nat :=
  let (m, q) := x.decompose
  let r := scale m 1 q
  r.1 / r.2

/-- The machine word nearest to the number when its fraction is dropped: negative numbers and
what is no number become zero, what is too large the largest word. -/
def toWord (x : Binary64) : UInt64 :=
  if infinityBits < x.magnitudeBits || x.isNegative then 0
  else if !x.isFinite then UInt64.ofNat (Nat.pow 2 64 - 1)
  else UInt64.ofNat (min (Nat.pow 2 64 - 1) x.floorMagnitude)

end Binary64

end VaultAccess.Number
