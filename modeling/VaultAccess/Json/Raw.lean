import VaultAccess.Json.Scan

/-!
# The shape of a JSON text

A raw document is a text cut at its punctuation. Strings and numbers are kept as they are
written, so a part that nobody asks for is never refused for what it means: only for its form.
-/
namespace VaultAccess.Json

/-- A JSON text cut at its punctuation. A lexeme holds the bytes of a string after its opening
quote, or those of a number. -/
inductive Raw where
  | null
  | bool (b : Bool)
  | num (lexeme : List UInt8)
  | str (lexeme : List UInt8)
  | arr (items : List Raw)
  | obj (members : List (List UInt8 × Raw))
  deriving Inhabited

namespace Raw

/-- The bytes after an escape, given those after its backslash. -/
def skipEscape : List UInt8 → Except Fault (List UInt8)
  | [] => failAt .endInString []
  | b :: rest =>
    if (simpleEscape? b).isSome then .ok rest
    else if b = 117 then
      match codeUnit rest with
      | .ok (_, rest) => .ok rest
      | .error f => .error f
    else failAt .invalidEscape rest

theorem skipEscape_length {bs rest : List UInt8} (h : skipEscape bs = .ok rest) :
    rest.length < bs.length := by
  unfold skipEscape at h
  split at h
  · simp [failAt] at h
  · split at h
    · simp only [Except.ok.injEq] at h
      subst h
      simp
    · split at h
      · split at h
        · next hu =>
          simp only [Except.ok.injEq] at h
          subst h
          have := codeUnit_length hu
          simp only [List.length_cons]
          omega
        · simp at h
      · simp [failAt] at h

/-- The bytes after a string, given those after its opening quote. -/
def skipString (bs : List UInt8) : Except Fault (List UInt8) :=
  match bs with
  | [] => failAt .endInString []
  | b :: rest =>
    if b = 34 then .ok rest
    else if b = 92 then
      match _h : skipEscape rest with
      | .ok rest' => skipString rest'
      | .error f => .error f
    else if b < 32 then failAt .controlCharacter bs
    else skipString rest
termination_by bs.length
decreasing_by
  · have := skipEscape_length _h
    simp only [List.length_cons]
    omega
  · simp

/-- The bytes after the exponent of a number, given those after its letter. -/
def skipExponent (bs : List UInt8) : Except Fault (List UInt8) :=
  let bs := match bs with
    | 43 :: rest => rest
    | 45 :: rest => rest
    | rest => rest
  match bs with
  | [] => failAt .invalidNumber []
  | b :: rest => if isDigitByte b then .ok (countDigits rest).2 else failAt .invalidNumber rest

/-- The bytes after a number, given those after its digits. -/
def skipAfterDigits (bs : List UInt8) : Except Fault (List UInt8) :=
  match bs with
  | [] => .ok []
  | b :: rest => if b = 101 ∨ b = 69 then skipExponent rest else .ok bs

/-- The bytes after a number, given those after the digits before its point. -/
def skipAfterInteger (bs : List UInt8) : Except Fault (List UInt8) :=
  match bs with
  | 46 :: rest =>
    if digitAhead rest then skipAfterDigits (countDigits rest).2
    else failPeek .invalidNumber rest
  | rest => skipAfterDigits rest

/-- The bytes after a number without its sign. -/
def skipNumber (bs : List UInt8) : Except Fault (List UInt8) :=
  match bs with
  | [] => failAt .invalidNumber []
  | b :: rest =>
    if b = 48 then
      if digitAhead rest then failPeek .invalidNumber rest else skipAfterInteger rest
    else if isDigitByte b then skipAfterInteger (countDigits rest).2
    else failAt .invalidNumber rest

/-- The bytes of `bs` that are not in its end part `rest`. -/
def consumed (bs rest : List UInt8) : List UInt8 := bs.take (bs.length - rest.length)

/-- A value that is neither a list nor an object. -/
def scalar (bs : List UInt8) : Scanned Raw :=
  match bs with
  | [] => failPeek .endInValue []
  | b :: rest =>
    if b = 110 then (restOfNull rest).map fun r => (.null, r)
    else if b = 116 then (restOfTrue rest).map fun r => (.bool true, r)
    else if b = 102 then (restOfFalse rest).map fun r => (.bool false, r)
    else if b = 34 then (skipString rest).map fun r => (.str (consumed rest r), r)
    else if b = 45 then (skipNumber rest).map fun r => (.num (consumed bs r), r)
    else if isDigitByte b then (skipNumber bs).map fun r => (.num (consumed bs r), r)
    else failPeek .expectedValue bs

/-- A key and its colon. -/
def key (bs : List UInt8) : Scanned (List UInt8) :=
  match bs with
  | [] => failPeek .endInObject []
  | b :: rest =>
    if b = 34 then
      match skipString rest with
      | .error f => .error f
      | .ok after =>
        match skipBlank after with
        | [] => failPeek .endInObject []
        | c :: rest' =>
          if c = 58 then .ok (consumed rest after, rest') else failPeek .expectedColon (c :: rest')
    else failPeek .keyNotString bs

mutual

/-- A value, with at most `fuel` nested parts. -/
def value : Nat → List UInt8 → Scanned Raw
  | 0, bs => failAt .tooDeep bs
  | fuel + 1, bs =>
    match skipBlank bs with
    | [] => failPeek .endInValue []
    | b :: rest =>
      if b = 91 then
        match skipBlank rest with
        | [] => failPeek .endInList []
        | c :: rest' =>
          if c = 93 then .ok (.arr [], rest')
          else (items fuel (c :: rest')).map fun r => (.arr r.1, r.2)
      else if b = 123 then
        match skipBlank rest with
        | [] => failPeek .endInObject []
        | c :: rest' =>
          if c = 125 then .ok (.obj [], rest')
          else (members fuel (c :: rest')).map fun r => (.obj r.1, r.2)
      else scalar (b :: rest)

/-- The items of a list up to its end, of which at least one is ahead. -/
def items : Nat → List UInt8 → Scanned (List Raw)
  | 0, bs => failAt .tooDeep bs
  | fuel + 1, bs =>
    match value fuel bs with
    | .error f => .error f
    | .ok (v, rest) =>
      match skipBlank rest with
      | [] => failPeek .endInList []
      | c :: rest' =>
        if c = 44 then (items fuel rest').map fun r => (v :: r.1, r.2)
        else if c = 93 then .ok ([v], rest')
        else failPeek .expectedListEnd (c :: rest')

/-- The members of an object up to its end, of which at least one is ahead. -/
def members : Nat → List UInt8 → Scanned (List (List UInt8 × Raw))
  | 0, bs => failAt .tooDeep bs
  | fuel + 1, bs =>
    match key (skipBlank bs) with
    | .error f => .error f
    | .ok (k, rest) =>
      match value fuel rest with
      | .error f => .error f
      | .ok (v, rest) =>
        match skipBlank rest with
        | [] => failPeek .endInObject []
        | c :: rest' =>
          if c = 44 then (members fuel rest').map fun r => ((k, v) :: r.1, r.2)
          else if c = 125 then .ok ([(k, v)], rest')
          else failPeek .expectedObjectEnd (c :: rest')

end

/-- The value ahead. Every nested part takes a byte, so the fuel lasts. -/
def next (bs : List UInt8) : Scanned Raw := value (2 * bs.length + 1) bs

/-- The document that a whole text holds. -/
def ofText (text : List UInt8) : Except Fault Raw :=
  match next text with
  | .error f => .error f
  | .ok (v, rest) =>
    match skipBlank rest with
    | [] => .ok v
    | rest => failPeek .trailingCharacters rest

/-- The text that a string lexeme writes, if it writes one. -/
def text? (lexeme : List UInt8) : Option String :=
  match string lexeme with
  | .ok (s, []) => some s
  | _ => none

/-- The number that a lexeme writes, if it is not too large. -/
def number? (lexeme : List UInt8) : Option Number :=
  let scanned := match lexeme with
    | 45 :: rest => number false rest
    | bs => number true bs
  match scanned with
  | .ok (n, []) => some n
  | _ => none

end Raw

end VaultAccess.Json
