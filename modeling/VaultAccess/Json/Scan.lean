import VaultAccess.Json.Mismatch
import VaultAccess.Text.Utf8

/-!
# Scanning JSON text

Scanners take the bytes ahead and give back what they read with the bytes after it. A fault says
how many bytes were left when it was noticed, from which its line and column follow.
-/
namespace VaultAccess.Json

/-- Why a text is refused. -/
inductive Cause where
  | endInValue
  | endInList
  | endInObject
  | endInString
  | expectedColon
  | expectedListEnd
  | expectedObjectEnd
  | expectedIdent
  | expectedValue
  | keyNotString
  | trailingComma
  | trailingCharacters
  | invalidNumber
  | numberRange
  | invalidEscape
  | hexEscapeEnd
  | loneSurrogate
  | invalidCodePoint
  | controlCharacter
  | tooDeep
  | mismatch (m : Mismatch)
  deriving DecidableEq, Repr

/-- The wording of a cause. -/
def Cause.message : Cause → String
  | .endInValue => "EOF while parsing a value"
  | .endInList => "EOF while parsing a list"
  | .endInObject => "EOF while parsing an object"
  | .endInString => "EOF while parsing a string"
  | .expectedColon => "expected `:`"
  | .expectedListEnd => "expected `,` or `]`"
  | .expectedObjectEnd => "expected `,` or `\x7d`"
  | .expectedIdent => "expected ident"
  | .expectedValue => "expected value"
  | .keyNotString => "key must be a string"
  | .trailingComma => "trailing comma"
  | .trailingCharacters => "trailing characters"
  | .invalidNumber => "invalid number"
  | .numberRange => "number out of range"
  | .invalidEscape => "invalid escape"
  | .hexEscapeEnd => "unexpected end of hex escape"
  | .loneSurrogate => "lone leading surrogate in hex escape"
  | .invalidCodePoint => "invalid unicode code point"
  | .controlCharacter => "control character (\\u0000-\\u001F) found while parsing a string"
  | .tooDeep => "recursion limit exceeded"
  | .mismatch m => m.message

/-- A fault noticed with `left` bytes ahead. -/
structure Fault where
  cause : Cause
  left : Nat
  deriving DecidableEq, Repr

/-- The line and column of the place with `left` bytes ahead: lines count from one, columns count
the bytes since the last line break. -/
def position (text : List UInt8) (left : Nat) : Nat × Nat :=
  let before := text.take (text.length - left)
  (before.count 10 + 1, (before.reverse.takeWhile (· != 10)).length)

/-- The wording of a fault in a text. -/
def Fault.message (f : Fault) (text : List UInt8) : String :=
  let (line, column) := position text f.left
  f.cause.message ++ " at line " ++ toString line ++ " column " ++ toString column

/-- What a scanner gives: a result and the bytes after it. -/
abbrev Scanned (α : Type) := Except Fault (α × List UInt8)

/-- A fault noticed after the last byte that was read. -/
def failAt {α : Type} (cause : Cause) (rest : List UInt8) : Except Fault α :=
  .error ⟨cause, rest.length⟩

/-- A fault noticed by looking at the next byte, which counts as read. -/
def failPeek {α : Type} (cause : Cause) (rest : List UInt8) : Except Fault α :=
  .error ⟨cause, rest.length - 1⟩

/-- A blank of JSON: tab, line feed, carriage return or space. -/
def isBlankByte (b : UInt8) : Bool := b == 9 || b == 10 || b == 13 || b == 32

/-- The bytes after the blanks. -/
def skipBlank (bs : List UInt8) : List UInt8 := bs.dropWhile isBlankByte

def isDigitByte (b : UInt8) : Bool := 48 ≤ b && b ≤ 57

/-- The bytes after an identifier whose remaining bytes are given. -/
def ident : List UInt8 → List UInt8 → Except Fault (List UInt8)
  | [], rest => .ok rest
  | _ :: _, [] => failAt .endInValue []
  | e :: es, b :: rest => if b = e then ident es rest else failAt .expectedIdent rest

/-- The bytes after `null`, given those after its first letter. -/
def restOfNull : List UInt8 → Except Fault (List UInt8) := ident [117, 108, 108]

/-- The bytes after `true`, given those after its first letter. -/
def restOfTrue : List UInt8 → Except Fault (List UInt8) := ident [114, 117, 101]

/-- The bytes after `false`, given those after its first letter. -/
def restOfFalse : List UInt8 → Except Fault (List UInt8) := ident [97, 108, 115, 101]

/-! ## Strings -/

/-- The value of a hexadecimal digit of either case. -/
def hexValue? (b : UInt8) : Option Nat :=
  let n := b.toNat
  if 48 ≤ n ∧ n ≤ 57 then some (n - 48)
  else if 65 ≤ n ∧ n ≤ 70 then some (n - 55)
  else if 97 ≤ n ∧ n ≤ 102 then some (n - 87)
  else none

/-- The code unit that four digits write. -/
def codeUnit : List UInt8 → Scanned Nat
  | a :: b :: c :: d :: rest =>
    match hexValue? a, hexValue? b, hexValue? c, hexValue? d with
    | some w, some x, some y, some z => .ok (4096 * w + 256 * x + 16 * y + z, rest)
    | _, _, _, _ => failAt .invalidEscape rest
  | _ => failAt .endInString []

/-- The byte that a one-letter escape stands for. -/
def simpleEscape? (b : UInt8) : Option UInt8 :=
  if b = 34 ∨ b = 92 ∨ b = 47 then some b
  else if b = 98 then some 8
  else if b = 102 then some 12
  else if b = 110 then some 10
  else if b = 114 then some 13
  else if b = 116 then some 9
  else none

/-- The second half of a surrogate pair whose first half is `high`. -/
def lowSurrogate (high : Nat) : List UInt8 → Scanned (List UInt8)
  | [] => failAt .endInString []
  | b :: rest =>
    if b ≠ 92 then failAt .hexEscapeEnd rest
    else match rest with
      | [] => failAt .endInString []
      | u :: rest =>
        if u ≠ 117 then failAt .hexEscapeEnd rest
        else match codeUnit rest with
          | .error f => .error f
          | .ok (low, rest) =>
            if low < 0xDC00 ∨ 0xDFFF < low then failAt .loneSurrogate rest
            else
              let n := (high - 0xD800) * 1024 + (low - 0xDC00) + 0x10000
              .ok (Text.Utf8.encodeChar (Char.ofNat n), rest)

/-- The bytes that an escape stands for, given what follows its backslash. -/
def escape : List UInt8 → Scanned (List UInt8)
  | [] => failAt .endInString []
  | b :: rest =>
    match simpleEscape? b with
    | some x => .ok ([x], rest)
    | none =>
      if b ≠ 117 then failAt .invalidEscape rest
      else match codeUnit rest with
        | .error f => .error f
        | .ok (n, rest) =>
          if 0xDC00 ≤ n ∧ n ≤ 0xDFFF then failAt .loneSurrogate rest
          else if 0xD800 ≤ n ∧ n ≤ 0xDBFF then lowSurrogate n rest
          else .ok (Text.Utf8.encodeChar (Char.ofNat n), rest)

theorem codeUnit_length {bs rest : List UInt8} {n : Nat} (h : codeUnit bs = .ok (n, rest)) :
    rest.length ≤ bs.length := by
  unfold codeUnit at h
  split at h
  · split at h
    · simp only [Except.ok.injEq, Prod.mk.injEq] at h
      obtain ⟨-, rfl⟩ := h
      simp only [List.length_cons]
      omega
    · simp [failAt] at h
  · simp [failAt] at h

theorem lowSurrogate_length {high : Nat} {bs rest out : List UInt8}
    (h : lowSurrogate high bs = .ok (out, rest)) : rest.length ≤ bs.length := by
  unfold lowSurrogate at h
  split at h
  · simp [failAt] at h
  · split at h
    · simp [failAt] at h
    · split at h
      · simp [failAt] at h
      · split at h
        · simp [failAt] at h
        · split at h
          · simp at h
          · next hu =>
            split at h
            · simp [failAt] at h
            · simp only [Except.ok.injEq, Prod.mk.injEq] at h
              obtain ⟨-, rfl⟩ := h
              have := codeUnit_length hu
              simp only [List.length_cons]
              omega

theorem escape_length {bs rest out : List UInt8} (h : escape bs = .ok (out, rest)) :
    rest.length < bs.length := by
  unfold escape at h
  split at h
  · simp [failAt] at h
  · split at h
    · simp only [Except.ok.injEq, Prod.mk.injEq] at h
      obtain ⟨-, rfl⟩ := h
      simp
    · split at h
      · simp [failAt] at h
      · split at h
        · simp at h
        · next hu =>
          have hl := codeUnit_length hu
          split at h
          · simp [failAt] at h
          · split at h
            · have := lowSurrogate_length h
              simp only [List.length_cons]
              omega
            · simp only [Except.ok.injEq, Prod.mk.injEq] at h
              obtain ⟨-, rfl⟩ := h
              simp only [List.length_cons]
              omega

/-- The bytes read before, in reverse, followed by those of a string up to its closing quote,
escapes resolved. -/
def stringBytes (before bs : List UInt8) : Scanned (List UInt8) :=
  match bs with
  | [] => failAt .endInString []
  | b :: rest =>
    if b = 34 then .ok (before.reverse, rest)
    else if b = 92 then
      match _h : escape rest with
      | .error f => .error f
      | .ok (out, rest') => stringBytes (out.reverse ++ before) rest'
    else if b < 32 then failAt .controlCharacter rest
    else stringBytes (b :: before) rest
termination_by bs.length
decreasing_by
  · have := escape_length _h
    simp only [List.length_cons]
    omega
  · simp

/-- The text of a string, given what follows its opening quote. Bytes that are no text are noticed
at the closing quote. -/
def string (bs : List UInt8) : Scanned String :=
  match stringBytes [] bs with
  | .error f => .error f
  | .ok (bytes, rest) =>
    match Text.Utf8.decode bytes with
    | .ok s => .ok (s, rest)
    | .error _ => .error ⟨.invalidCodePoint, rest.length + 1⟩

/-! ## Numbers -/

/-- The largest value of an unsigned word. -/
def maxWord : Nat := Nat.pow 2 64 - 1

/-- The digits ahead that keep a significand within a word, their number, and the bytes after
them. -/
def wordDigits (significand count : Nat) : List UInt8 → Nat × Nat × List UInt8
  | [] => (significand, count, [])
  | b :: rest =>
    if isDigitByte b then
      let next := 10 * significand + (b.toNat - 48)
      if maxWord < next then (significand, count, b :: rest)
      else wordDigits next (count + 1) rest
    else (significand, count, b :: rest)

/-- The number of digits ahead and the bytes after them. -/
def countDigits (bs : List UInt8) : Nat × List UInt8 :=
  ((bs.takeWhile isDigitByte).length, bs.dropWhile isDigitByte)

/-- Whether the next byte is a digit. -/
def digitAhead : List UInt8 → Bool
  | b :: _ => isDigitByte b
  | [] => false

/-- A power of ten. -/
def tenTo (n : Nat) : Number.Binary64 := Number.Binary64.ofDecimal 1 n

/-- Divide by `10 ^ n`, by at most 308 powers at a time and rounding each time. -/
def divideByTens (x : Number.Binary64) (n : Nat) : Number.Binary64 :=
  if n ≤ 308 ∨ x.isZero then
    if x.isZero then x else x.divMagnitude (tenTo n)
  else divideByTens (x.divMagnitude (tenTo 308)) (n - 308)
termination_by n

/-- The number `significand * 10 ^ exponent`, computed from the rounded significand. -/
def scaled (positive : Bool) (significand : Nat) (exponent : Int) (rest : List UInt8) :
    Scanned Number :=
  let start := Number.Binary64.ofNat significand
  let signed (x : Number.Binary64) := if positive then x else x.neg
  if exponent < 0 then .ok (.float (signed (divideByTens start (-exponent).toNat)), rest)
  else if start.isZero then .ok (.float (signed start), rest)
  else if 308 < exponent then failAt .numberRange rest
  else
    let x := start.mulMagnitude (tenTo exponent.toNat)
    if x.isFinite then .ok (.float (signed x), rest) else failAt .numberRange rest

/-- The largest exponent that is read as a number. -/
def maxExponent : Nat := Nat.pow 2 31 - 1

/-- The digits of an exponent after its first: `none` if they exceed `maxExponent`. -/
def exponentDigits (value : Nat) : List UInt8 → Option Nat × List UInt8
  | [] => (some value, [])
  | b :: rest =>
    if isDigitByte b then
      let next := 10 * value + (b.toNat - 48)
      if maxExponent < next then (none, rest) else exponentDigits next rest
    else (some value, b :: rest)

/-- The rest of a number after the letter of its exponent. -/
def exponentPart (positive : Bool) (significand : Nat) (exponent : Int) (bs : List UInt8) :
    Scanned Number :=
  let (up, bs) := match bs with
    | 43 :: rest => (true, rest)
    | 45 :: rest => (false, rest)
    | rest => (true, rest)
  match bs with
  | [] => failAt .endInValue []
  | b :: rest =>
    if isDigitByte b then
      match exponentDigits (b.toNat - 48) rest with
      | (some e, rest) =>
        let total : Int := if up then exponent + e else exponent - e
        scaled positive significand total rest
      | (none, rest) =>
        if significand ≠ 0 ∧ up then failAt .numberRange rest
        else
          let zero := Number.Binary64.ofBits (!positive) 0
          .ok (.float zero, (countDigits rest).2)
    else failAt .invalidNumber rest

/-- The rest of a number after its digits: an exponent or nothing. -/
def afterDigits (positive : Bool) (significand : Nat) (exponent : Int) (bs : List UInt8) :
    Scanned Number :=
  match bs with
  | b :: rest =>
    if b = 101 ∨ b = 69 then exponentPart positive significand exponent rest
    else scaled positive significand exponent bs
  | [] => scaled positive significand exponent []

/-- The rest of a number after its point. -/
def fractionPart (positive : Bool) (significand : Nat) (exponent : Int) (bs : List UInt8) :
    Scanned Number :=
  let (significand, count, rest) := wordDigits significand 0 bs
  let exponent := exponent - count
  if digitAhead rest then afterDigits positive significand exponent (countDigits rest).2
  else if count = 0 then
    match rest with
    | [] => failPeek .endInValue rest
    | _ => failPeek .invalidNumber rest
  else afterDigits positive significand exponent rest

/-- The rest of a number after the digits before its point, which did not fit into a word. -/
def longInteger (positive : Bool) (significand : Nat) (bs : List UInt8) : Scanned Number :=
  let (count, rest) := countDigits bs
  match rest with
  | 46 :: rest => fractionPart positive significand count rest
  | rest => afterDigits positive significand count rest

/-- The integer with this sign and magnitude; what no word holds, and a negative zero, is
floating point. -/
def signedInteger (positive : Bool) (significand : Nat) : Number :=
  if positive then .int significand
  else if significand = 0 ∨ Nat.pow 2 63 < significand then
    .float (Number.Binary64.ofNat significand).neg
  else .int (-(significand : Int))

/-- The rest of a number after the digits before its point. -/
def afterInteger (positive : Bool) (significand : Nat) (bs : List UInt8) : Scanned Number :=
  match bs with
  | [] => .ok (signedInteger positive significand, [])
  | b :: rest =>
    if b = 46 then fractionPart positive significand 0 rest
    else if b = 101 ∨ b = 69 then exponentPart positive significand 0 rest
    else .ok (signedInteger positive significand, bs)

/-- A number without its sign. -/
def number (positive : Bool) (bs : List UInt8) : Scanned Number :=
  match bs with
  | [] => failAt .endInValue []
  | b :: rest =>
    if b = 48 then
      if digitAhead rest then failPeek .invalidNumber rest
      else afterInteger positive 0 rest
    else if isDigitByte b then
      let (significand, _, rest) := wordDigits (b.toNat - 48) 0 rest
      if digitAhead rest then longInteger positive significand rest
      else afterInteger positive significand rest
    else failAt .invalidNumber rest

end VaultAccess.Json
