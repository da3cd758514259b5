import VaultAccess.Json5.Value
import VaultAccess.Text.Digits
import VaultAccess.Text.Letters

/-!
# Reading JSON5 text

Texts in single or double quotes, names as keys, comments, commas before closing brackets, and
numbers with signs, bare points, in hexadecimal, or without end. Scanners take the characters
ahead and give back what they read with those after it.
-/
namespace VaultAccess.Json5

open Text (digitsIn? isHexDigit)

/-- A value ahead with the characters after it. -/
abbrev Scanned (α : Type) := Option (α × List Char)

def isLineEnd (c : Char) : Bool :=
  c == '\n' || c == '\r' || c == '\u2028' || c == '\u2029'

def isBlank (c : Char) : Bool :=
  isLineEnd c || c == '\t' || c == '\x0b' || c == '\x0c' || c == ' ' || c == '\u00a0' ||
    c == '\ufeff' || c == '\u1680' || ('\u2000' ≤ c && c ≤ '\u200a') || c == '\u202f' ||
    c == '\u205f' || c == '\u3000'

/-- The characters after the end of a comment between slashes and stars. -/
def afterStar? : List Char → Option (List Char)
  | [] => none
  | '*' :: '/' :: rest => some rest
  | _ :: rest => afterStar? rest

/-- The characters after blanks and at most `fuel` comments. -/
def skipBlank (fuel : Nat) (cs : List Char) : List Char :=
  let cs := cs.dropWhile isBlank
  match fuel, cs with
  | fuel + 1, '/' :: '/' :: rest => skipBlank fuel (rest.dropWhile fun c => !isLineEnd c)
  | fuel + 1, '/' :: '*' :: rest =>
    match afterStar? rest with
    | some rest => skipBlank fuel rest
    | none => cs
  | _, cs => cs

/-- The characters after blanks and comments. -/
def skip (cs : List Char) : List Char := skipBlank cs.length cs

/-! ## Numbers -/

def digitsAhead (cs : List Char) : List Char × List Char :=
  (cs.takeWhile Char.isDigit, cs.dropWhile Char.isDigit)

/-- The exponent ahead, if there is one. -/
def exponentAhead (cs : List Char) : Option Int × List Char :=
  let signed (isNegative : Bool) (rest : List Char) : Option Int × List Char :=
    let (ds, rest) := digitsAhead rest
    match digitsIn? 10 ds with
    | none => (none, cs)
    | some n => (some (if isNegative then -(n : Int) else n), rest)
  match cs with
  | c :: rest =>
    if c = 'e' ∨ c = 'E' then
      match rest with
      | '-' :: rest => signed true rest
      | '+' :: rest => signed false rest
      | rest => signed false rest
    else (none, cs)
  | [] => (none, cs)

/-- The decimal number ahead, without its sign. -/
def decimalAhead (isNegative : Bool) (cs : List Char) : Scanned Numeral :=
  let finish (whole fraction : List Char) (hasPoint : Bool) (rest : List Char) : Scanned Numeral :=
    let (e, rest) := exponentAhead rest
    (digitsIn? 10 (whole ++ fraction)).map fun n =>
      (.decimal isNegative n (e.getD 0 - fraction.length) (!hasPoint && e.isNone), rest)
  let (whole, rest) := match cs with
    | '0' :: rest => (['0'], rest)
    | cs => digitsAhead cs
  match whole, rest with
  | [], '.' :: rest =>
    match digitsAhead rest with
    | ([], _) => none
    | (fraction, rest) => finish [] fraction true rest
  | [], _ => none
  | whole, '.' :: rest =>
    let (fraction, rest) := digitsAhead rest
    finish whole fraction true rest
  | whole, rest => finish whole [] false rest

/-- The number ahead after a sign, if there is one. -/
def unsignedAhead (sign : Option Char) (cs : List Char) : Scanned Numeral :=
  let isNegative := sign == some '-'
  match cs with
  | 'I' :: 'n' :: 'f' :: 'i' :: 'n' :: 'i' :: 't' :: 'y' :: rest =>
    some (if sign = some '+' then .misplacedSign else .infinity isNegative, rest)
  | 'N' :: 'a' :: 'N' :: rest => some (if sign = some '+' then .misplacedSign else .notANumber, rest)
  | '0' :: x :: c :: rest =>
    if (x = 'x' ∨ x = 'X') ∧ isHexDigit c then
      let digits := (c :: rest).takeWhile isHexDigit
      (digitsIn? 16 digits).map fun n =>
        (if sign.isSome then .misplacedSign else .hexadecimal n, rest.drop (digits.length - 1))
    else decimalAhead isNegative cs
  | cs => decimalAhead isNegative cs

/-- The number ahead. -/
def numberAhead : List Char → Scanned Numeral
  | '-' :: rest => unsignedAhead (some '-') rest
  | '+' :: rest => unsignedAhead (some '+') rest
  | cs => unsignedAhead none cs

/-! ## Texts -/

/-- What an escape of one character stands for. -/
def escaped (c : Char) : Char :=
  match c with
  | 'b' => '\x08'
  | 'f' => '\x0c'
  | 'n' => '\n'
  | 'r' => '\r'
  | 't' => '\t'
  | 'v' => '\x0b'
  | c => c

/-- The number that four hexadecimal digits write. -/
def fourDigits? : List Char → Option (Nat × List Char)
  | a :: b :: c :: d :: rest =>
    (digitsIn? 16 [a, b, c, d]).map fun n => (n, rest)
  | _ => none

/-- One element of a text: a code unit of sixteen bits that an escape writes, any other character,
or nothing. -/
inductive Element where
  | unit (n : Nat)
  | char (c : Char)
  | nothing

/-- The element ahead after a backslash. -/
def escapeAhead : List Char → Scanned Element
  | [] => none
  | '\r' :: '\n' :: rest => some (.nothing, rest)
  | 'u' :: rest => (fourDigits? rest).map fun r => (.unit r.1, r.2)
  | 'x' :: a :: b :: rest =>
    (digitsIn? 16 [a, b]).map fun n => (.char (Char.ofNat n), rest)
  | '0' :: rest => some (.char '\x00', rest)
  | c :: rest =>
    if isLineEnd c then some (.nothing, rest)
    else if c.isDigit ∨ c = 'x' then none
    else some (.char (escaped c), rest)

/-- The elements up to a closing quote, latest first, after those before them. -/
def elementsAhead (quote : Char) (fuel : Nat) (before : List Element) (cs : List Char) :
    Scanned (List Element) :=
  match fuel, cs with
  | 0, _ => none
  | _, [] => none
  | fuel + 1, c :: rest =>
    if c = quote then some (before, rest)
    else if c = '\\' then
      match escapeAhead rest with
      | none => none
      | some (e, rest) => elementsAhead quote fuel (e :: before) rest
    else if isLineEnd c then none
    else elementsAhead quote fuel (.char c :: before) rest

/-- The characters of elements, put before those that come after; the elements are given latest
first. Two code units may form one character, but none stands for half of one. -/
def charsOf (after : List Char) : List Element → Option (List Char)
  | [] => some after
  | .nothing :: before => charsOf after before
  | .char c :: before => charsOf (c :: after) before
  | .unit n :: before =>
    if 0xDC00 ≤ n ∧ n < 0xE000 then
      match before with
      | .unit m :: before =>
        if 0xD800 ≤ m ∧ m < 0xDC00 then
          charsOf (Char.ofNat (0x10000 + (m - 0xD800) * 1024 + (n - 0xDC00)) :: after) before
        else none
      | _ => none
    else if 0xD800 ≤ n ∧ n < 0xDC00 then none
    else charsOf (Char.ofNat n :: after) before

/-- The text of elements, which are given latest first. -/
def textOf (elements : List Element) : Option String :=
  (charsOf [] elements).map String.ofList

/-- The text ahead, after its opening quote. -/
def textAhead (quote : Char) (cs : List Char) : Scanned (Option String) :=
  (elementsAhead quote (cs.length + 1) [] cs).map fun r => (textOf r.1, r.2)

/-! ## Names -/

def isNameStart (c : Char) : Bool :=
  c == '$' || c == '_' || c.isAlpha || (128 ≤ c.toNat && Text.isLetter c)

def isNamePart (c : Char) : Bool :=
  isNameStart c || c.isDigit || c == '\u200c' || c == '\u200d' || Text.isWordMark c

/-- The elements of a name ahead, latest first, after those before them. -/
def nameElements (fuel : Nat) (before : List Element) (cs : List Char) :
    List Element × List Char :=
  match fuel, cs with
  | 0, cs => (before, cs)
  | _, [] => (before, [])
  | fuel + 1, '\\' :: 'u' :: rest =>
    match fourDigits? rest with
    | some (n, rest) => nameElements fuel (.unit n :: before) rest
    | none => (before, cs)
  | fuel + 1, c :: rest =>
    if (if before.isEmpty then isNameStart c else isNamePart c) then
      nameElements fuel (.char c :: before) rest
    else (before, c :: rest)

/-- The key ahead. -/
def keyAhead : List Char → Scanned (Option String)
  | '"' :: rest => textAhead '"' rest
  | '\'' :: rest => textAhead '\'' rest
  | cs =>
    match nameElements cs.length [] cs with
    | ([], _) => none
    | (elements, rest) => some (textOf elements, rest)

/-! ## Values -/

/-- The value ahead that has no parts. -/
def plainAhead : List Char → Scanned Value
  | 'n' :: 'u' :: 'l' :: 'l' :: rest => some (.null, rest)
  | 't' :: 'r' :: 'u' :: 'e' :: rest => some (.bool true, rest)
  | 'f' :: 'a' :: 'l' :: 's' :: 'e' :: rest => some (.bool false, rest)
  | '"' :: rest => (textAhead '"' rest).map fun r => (.str r.1, r.2)
  | '\'' :: rest => (textAhead '\'' rest).map fun r => (.str r.1, r.2)
  | cs => (numberAhead cs).map fun r => (.num r.1, r.2)

mutual

/-- The value ahead, with at most `fuel` nested parts. -/
def valueAhead : Nat → List Char → Scanned Value
  | 0, _ => none
  | fuel + 1, cs =>
    match skip cs with
    | '[' :: rest =>
      match skip rest with
      | ']' :: rest => some (.arr [], rest)
      | rest => (itemsAhead fuel rest).map fun r => (.arr r.1, r.2)
    | '{' :: rest =>
      match skip rest with
      | '}' :: rest => some (.obj [], rest)
      | rest => (membersAhead fuel rest).map fun r => (.obj r.1, r.2)
    | cs => plainAhead cs

/-- The items ahead up to their closing bracket, of which there is at least one. -/
def itemsAhead : Nat → List Char → Scanned (List Value)
  | 0, _ => none
  | fuel + 1, cs =>
    match valueAhead fuel cs with
    | none => none
    | some (v, rest) =>
      match skip rest with
      | ']' :: rest => some ([v], rest)
      | ',' :: rest =>
        match skip rest with
        | ']' :: rest => some ([v], rest)
        | rest => (itemsAhead fuel rest).map fun r => (v :: r.1, r.2)
      | _ => none

/-- The members ahead up to their closing brace, of which there is at least one. -/
def membersAhead : Nat → List Char → Scanned (List (Option String × Value))
  | 0, _ => none
  | fuel + 1, cs =>
    match keyAhead (skip cs) with
    | none => none
    | some (key, rest) =>
      match skip rest with
      | ':' :: rest =>
        match valueAhead fuel rest with
        | none => none
        | some (v, rest) =>
          match skip rest with
          | '}' :: rest => some ([(key, v)], rest)
          | ',' :: rest =>
            match skip rest with
            | '}' :: rest => some ([(key, v)], rest)
            | rest => (membersAhead fuel rest).map fun r => ((key, v) :: r.1, r.2)
          | _ => none
      | _ => none

end

/-- The value that a text writes, if it is a JSON5 text. Every nested part takes a character, so
the fuel lasts. -/
def ofText? (text : String) : Option Value :=
  let cs := text.toList
  match valueAhead (2 * cs.length + 1) cs with
  | none => none
  | some (v, rest) => if skip rest = [] then some v else none

end VaultAccess.Json5
