import VaultAccess.Number.Binary64

/-!
# Shortest decimal text

A finite number is written with the fewest digits that read back as it, and of those with the
digits nearest to it. Exponents from -5 to 15 are written positionally, all others with one
digit before the point, a sign and at least two digits of exponent.
-/
namespace VaultAccess.Number.Binary64

/-- The integers `low ≤ high` in units of `2 ^ unit` between which all decimals read back as
the number of significand `m` and exponent `q`; the ends count if `m` is even. -/
structure Neighbourhood where
  low : Nat
  value : Nat
  high : Nat
  unit : Int
  closed : Bool

def neighbourhood (m : Nat) (q : Int) : Neighbourhood :=
  ⟨if m = Nat.pow 2 52 ∧ -1074 < q then 4 * m - 1 else 4 * m - 2, 4 * m, 4 * m + 2, q - 2, m % 2 = 0⟩

/-- The decimal `d * 10 ^ p` nearest to the number that lies in its neighbourhood. -/
def Neighbourhood.nearest? (w : Neighbourhood) (p : Int) : Option Nat :=
  let ten := if 0 ≤ p then (1, Nat.pow 10 p.toNat) else (Nat.pow 10 (-p).toNat, 1)
  let two := scale ten.1 ten.2 w.unit
  let inside (d : Nat) : Bool :=
    if w.closed then w.low * two.1 ≤ d * two.2 && d * two.2 ≤ w.high * two.1
    else w.low * two.1 < d * two.2 && d * two.2 < w.high * two.1
  let d := w.value * two.1 / two.2
  let below := w.value * two.1 - d * two.2
  let above := (d + 1) * two.2 - w.value * two.1
  match inside d && 0 < d, inside (d + 1) with
  | true, true =>
    if below < above then some d
    else if above < below then some (d + 1)
    else some (d + d % 2)
  | true, false => some d
  | false, true => some (d + 1)
  | false, false => none

/-- The digits `d` and exponent `p` of the shortest decimal `d * 10 ^ p`. -/
def shortest (m : Nat) (q : Int) : Nat × Int :=
  let w := neighbourhood m q
  ((List.range 660).findSome? fun (i : Nat) =>
    let p : Int := 310 - (i : Int)
    (w.nearest? p).map fun d => (d, p)).getD (m, q)

/-- The text of digits and an exponent. -/
def layout (digits : List Char) (p : Int) : List Char :=
  let n := digits.length
  let e : Int := p + n - 1
  if 0 ≤ p && e < 16 then digits ++ List.replicate p.toNat '0' ++ ['.', '0']
  else if 0 ≤ e && e < 16 then
    digits.take (e.toNat + 1) ++ ['.'] ++ digits.drop (e.toNat + 1)
  else if -5 ≤ e && e < 0 then
    ['0', '.'] ++ List.replicate (-e - 1).toNat '0' ++ digits
  else
    let point := if n = 1 then digits else digits.take 1 ++ ['.'] ++ digits.drop 1
    let exponent := Nat.toDigits 10 e.natAbs
    point ++ ['e', if e < 0 then '-' else '+'] ++
      (if exponent.length < 2 then '0' :: exponent else exponent)

/-- The text of a finite number. -/
def text (x : Binary64) : String :=
  let (m, q) := x.decompose
  let body :=
    if m = 0 then ['0', '.', '0']
    else
      let (d, p) := shortest m q
      layout (Nat.toDigits 10 d) p
  String.ofList (if x.isNegative then '-' :: body else body)

end VaultAccess.Number.Binary64
