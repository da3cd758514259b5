import VaultAccess.Number.Binary64
import VaultAccess.Text.Digits
import VaultAccess.Text.Fields
import VaultAccess.Toml.Value

/-!
# TOML scalars

Whole numbers have 64 bits with a sign. Digits may be grouped by underscores. Dates exist in the
calendar.
-/
namespace VaultAccess.Toml

open Number (Binary64)

/-- The digits of a number with single underscores between them. -/
def grouped? (isDigit : Char → Bool) (cs : List Char) : Option (List Char) :=
  let groups := Text.fields '_' cs
  if groups.all fun g => g ≠ [] && g.all isDigit then some groups.flatten else none

/-- The number that grouped digits write in a radix. -/
def numberIn? (radix : Nat) (cs : List Char) : Option Nat :=
  (grouped? (fun c => (Text.digitIn? radix c).isSome) cs).bind (Text.digitsIn? radix)

/-- A decimal number without superfluous zeros. -/
def decimal? (cs : List Char) : Option Nat :=
  if cs.length ≠ 1 ∧ cs.head? = some '0' then none else numberIn? 10 cs

/-- A sign, if there is one, and the rest. -/
def signed : List Char → Bool × List Char
  | '-' :: rest => (true, rest)
  | '+' :: rest => (false, rest)
  | cs => (false, cs)

/-- A whole number. -/
def int? (cs : List Char) : Option Int :=
  let bounded (n : Nat) : Option Int := if n < Nat.pow 2 63 then some n else none
  match cs with
  | '0' :: 'x' :: rest => (numberIn? 16 rest).bind bounded
  | '0' :: 'o' :: rest => (numberIn? 8 rest).bind bounded
  | '0' :: 'b' :: rest => (numberIn? 2 rest).bind bounded
  | cs =>
    let (isNegative, digits) := signed cs
    (decimal? digits).bind fun n =>
      if isNegative then if n ≤ Nat.pow 2 63 then some (-n) else none else bounded n

/-- Whether the characters write a float: not a number, an infinity, or a number with a point or
an exponent, which is not too large. -/
def isFloat (cs : List Char) : Bool :=
  let (isNegative, cs) := signed cs
  let mantissa := cs.takeWhile fun c => c != 'e' && c != 'E'
  let exponent := cs.drop mantissa.length
  let whole := mantissa.takeWhile (· != '.')
  let fraction := mantissa.drop whole.length
  let (isSmall, digits) := signed (exponent.drop 1)
  let e? : Option Int :=
    if exponent = [] then some 0
    else (numberIn? 10 digits).map fun n => if isSmall then -n else n
  let f? := if fraction = [] then some [] else grouped? Char.isDigit (fraction.drop 1)
  if cs = ['i', 'n', 'f'] ∨ cs = ['n', 'a', 'n'] then true
  else
    match decimal? whole, f?, e? with
    | some n, some ds, some e =>
      let m := n * Nat.pow 10 ds.length + (Text.numberIn? 10 ds).getD 0
      cs ≠ whole && (isNegative || (Binary64.ofDecimal m (e - ds.length)).isFinite)
    | _, _, _ => false

/-! ## Dates and times -/

/-- The number that exactly `width` digits write, if it lies between two bounds. -/
def field? (width lower upper : Nat) (cs : List Char) : Option Nat :=
  if cs.length = width then
    (Text.digitsIn? 10 cs).filter fun n => lower ≤ n && n ≤ upper
  else none

/-- The number of days in a month. -/
def daysIn (year month : Nat) : Nat :=
  if month = 2 then
    if year % 4 = 0 ∧ (year % 100 ≠ 0 ∨ year % 400 = 0) then 29 else 28
  else if [4, 6, 9, 11].contains month then 30
  else 31

/-- A date as it is written, if there is such a day. -/
def date? (cs : List Char) : Option (List Char) :=
  match Text.fields '-' cs with
  | [y, m, d] =>
    match field? 4 0 9999 y, field? 2 1 12 m with
    | some year, some month => (field? 2 1 (daysIn year month) d).map fun _ => cs
    | _, _ => none
  | _ => none

/-- A time in its standard form: nine digits of its fraction, without zeros at the end. -/
def time? (cs : List Char) : Option (List Char) :=
  let whole := cs.takeWhile (· != '.')
  let fraction := cs.drop whole.length
  match Text.fields ':' whole with
  | [h, m, s] =>
    match field? 2 0 23 h, field? 2 0 59 m, field? 2 0 60 s with
    | some _, some _, some _ =>
      let digits := fraction.drop 1
      let shown := ((digits.take 9).reverse.dropWhile (· == '0')).reverse
      if fraction = [] then some whole
      else if digits = [] ∨ !digits.all Char.isDigit then none
      else some (if shown = [] then whole else whole ++ '.' :: shown)
    | _, _, _ => none
  | _ => none

/-- A time with an offset, in its standard form. -/
def offsetTime? (cs : List Char) : Option (List Char) :=
  let time := cs.takeWhile fun c => c.isDigit || c == ':' || c == '.'
  let offset? := match cs.drop time.length with
    | [] => some []
    | ['Z'] => some ['Z']
    | ['z'] => some ['Z']
    | sign :: offset =>
      if sign = '+' ∨ sign = '-' then
        match Text.fields ':' offset with
        | [h, m] =>
          match field? 2 0 23 h, field? 2 0 59 m with
          | some _, some _ => some (sign :: offset)
          | _, _ => none
        | _ => none
      else none
  match time? time, offset? with
  | some t, some o => some (t ++ o)
  | _, _ => none

/-- A date, a time, or both with `T` between them, in standard form. -/
def moment? (cs : List Char) : Option (List Char) :=
  match date? (cs.take 10), cs.drop 10 with
  | some d, [] => some d
  | some d, sep :: rest =>
    if sep = 'T' ∨ sep = 't' then (offsetTime? rest).map fun t => d ++ 'T' :: t else none
  | none, _ => time? cs

/-- The value of a run of characters without blanks. -/
def scalar? (cs : List Char) : Option Value :=
  if cs = "true".toList then some (.flag true)
  else if cs = "false".toList then some (.flag false)
  else
    match int? cs with
    | some n => some (.int n)
    | none =>
      if isFloat cs then some .float
      else (moment? cs).map fun m => .moment (String.ofList m)

end VaultAccess.Toml
