/-!
# Base64 with the URL-safe alphabet and no padding

Three bytes are written as four symbols; one or two bytes left over as two or three.
Reading refuses foreign symbols, padding, a lone last symbol, and bits that no byte claims,
so each byte sequence has one written form.
-/
namespace VaultAccess.Text.Base64Url

/-- The symbol of a six-bit value. -/
def symbol (n : Nat) : UInt8 :=
  if n < 26 then UInt8.ofNat (65 + n)
  else if n < 52 then UInt8.ofNat (97 + (n - 26))
  else if n < 62 then UInt8.ofNat (48 + (n - 52))
  else if n = 62 then 45
  else 95

/-- The six-bit value of a symbol. -/
def value? (b : UInt8) : Option Nat :=
  let n := b.toNat
  if 65 ≤ n ∧ n ≤ 90 then some (n - 65)
  else if 97 ≤ n ∧ n ≤ 122 then some (n - 97 + 26)
  else if 48 ≤ n ∧ n ≤ 57 then some (n - 48 + 52)
  else if n = 45 then some 62
  else if n = 95 then some 63
  else none

/-- The symbols of a byte sequence. -/
def encode : List UInt8 → List UInt8
  | a :: b :: c :: rest =>
    symbol (a.toNat / 4) :: symbol (a.toNat % 4 * 16 + b.toNat / 16) ::
      symbol (b.toNat % 16 * 4 + c.toNat / 64) :: symbol (c.toNat % 64) :: encode rest
  | [a, b] =>
    [symbol (a.toNat / 4), symbol (a.toNat % 4 * 16 + b.toNat / 16), symbol (b.toNat % 16 * 4)]
  | [a] => [symbol (a.toNat / 4), symbol (a.toNat % 4 * 16)]
  | [] => []

/-- Why a text is not the written form of a byte sequence. -/
inductive Fault where
  /-- A byte outside the alphabet. -/
  | foreign (byte : UInt8) (offset : Nat)
  /-- A lone last symbol. -/
  | length (size : Nat)
  /-- A last symbol with bits that belong to no byte. -/
  | lastSymbol (byte : UInt8) (offset : Nat)
  /-- Well-placed padding, which this form does not have. -/
  | padding
  deriving DecidableEq, Repr

/-- The wording of a fault. -/
def Fault.message : Fault → String
  | .foreign b i => "Invalid symbol " ++ toString b.toNat ++ ", offset " ++ toString i ++ "."
  | .length n => "Invalid input length: " ++ toString n
  | .lastSymbol b i =>
    "Invalid last symbol " ++ toString b.toNat ++ ", offset " ++ toString i ++ "."
  | .padding => "Invalid padding"

/-- The padding byte of other base64 forms. -/
def pad : UInt8 := 61

/-- The value of the symbol at `offset`. -/
def read (offset : Nat) (b : UInt8) : Except Fault Nat :=
  match value? b with
  | some v => .ok v
  | none => .error (.foreign b offset)

/-- The one or two bytes of a last group of two or three symbols; no bit may be left over. -/
def readRest (offset : Nat) : List UInt8 → Except Fault (List UInt8)
  | [] => .ok []
  | [a] =>
    match read offset a with
    | .error f => .error f
    | .ok _ => .error (.length (offset + 1))
  | [a, b] =>
    match read offset a, read (offset + 1) b with
    | .error f, _ => .error f
    | _, .error f => .error f
    | .ok x, .ok y =>
      if y % 16 = 0 then .ok [UInt8.ofNat (x * 4 + y / 16)]
      else .error (.lastSymbol b (offset + 1))
  | [a, b, c] =>
    match read offset a, read (offset + 1) b, read (offset + 2) c with
    | .error f, _, _ => .error f
    | _, .error f, _ => .error f
    | _, _, .error f => .error f
    | .ok x, .ok y, .ok z =>
      if z % 4 = 0 then .ok [UInt8.ofNat (x * 4 + y / 16), UInt8.ofNat (y % 16 * 16 + z / 4)]
      else .error (.lastSymbol c (offset + 2))
  | a :: b :: c :: d :: rest =>
    match read offset a, read (offset + 1) b, read (offset + 2) c, read (offset + 3) d with
    | .error f, _, _, _ => .error f
    | _, .error f, _, _ => .error f
    | _, _, .error f, _ => .error f
    | _, _, _, .error f => .error f
    | .ok x, .ok y, .ok z, .ok w =>
      match readRest (offset + 4) rest with
      | .error f => .error f
      | .ok bytes =>
        .ok (UInt8.ofNat (x * 4 + y / 16) :: UInt8.ofNat (y % 16 * 16 + z / 4) ::
          UInt8.ofNat (z % 4 * 64 + w) :: bytes)

/-- Whether a text consists of symbols and one or two padding bytes that complete, or could
be part of, its last group. -/
def isPadded (text : List UInt8) : Bool :=
  let body := (text.reverse.dropWhile (· == pad)).reverse
  let padding := text.length - body.length
  let full := body.length % 4
  body.all (fun b => (value? b).isSome) && 0 < padding && full + padding ≤ 4 &&
    (full == 2 || full == 3)

/-- The bytes that a text writes. A foreign byte that would be a lone last symbol is named
before all others. -/
def decode (text : List UInt8) : Except Fault (List UInt8) :=
  match text.getLast? with
  | some b =>
    if text.length % 4 = 1 ∧ b ≠ pad ∧ value? b = none then
      .error (.foreign b (text.length - 1))
    else if isPadded text then .error .padding
    else readRest 0 text
  | none => .ok []

end VaultAccess.Text.Base64Url
