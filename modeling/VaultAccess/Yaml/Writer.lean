import VaultAccess.Json.Writer
import VaultAccess.Yaml.Decode

/-!
# Writing YAML

Mappings and sequences are blocks, indented by two; a sequence stands in the column of its key. A
text is plain where it can be, quoted where it would be read as something else, a literal block
where it has several lines, and in double quotes where nothing else is possible.
-/
namespace VaultAccess.Yaml

open Number (Binary64)
open Text (digitsIn?)

/-! ## Which texts would be read as something else -/

/-- A number and its exponent of ten, if the characters write one with or without a point. -/
def decimalOf? (cs : List Char) : Option (Nat × Int) := do
  let whole := cs.takeWhile Char.isDigit
  let rest := cs.drop whole.length
  let fraction := match rest with
    | '.' :: rest => rest.takeWhile Char.isDigit
    | _ => []
  let rest := match rest with
    | '.' :: rest => rest.drop fraction.length
    | rest => rest
  let e : Int ← match rest with
    | [] => some 0
    | c :: rest =>
      if c = 'e' ∨ c = 'E' then
        match rest with
        | '-' :: ds => (digitsIn? 10 ds).map fun n => -(n : Int)
        | '+' :: ds => (digitsIn? 10 ds).map fun n => (n : Int)
        | ds => (digitsIn? 10 ds).map fun n => (n : Int)
      else none
  let n ← digitsIn? 10 (whole ++ fraction)
  pure (n, e - fraction.length)

/-- Whether the characters write a finite number with a point or an exponent, or an unbounded one
by name. -/
def isFloat (cs : List Char) : Bool :=
  let (unsigned, isPositive) := match cs with
    | '+' :: rest => (rest, true)
    | '-' :: rest => (rest, false)
    | cs => (cs, true)
  let name := String.ofList unsigned
  let isNamed := [".inf", ".Inf", ".INF"].contains name ||
    (isPositive && [".nan", ".NaN", ".NAN"].contains (String.ofList cs))
  isNamed || (decimalOf? unsigned).any fun (n, e) => (Binary64.ofDecimal n e).isFinite

/-- Whether the characters write a whole number of at most 128 bits, with or without a sign. -/
def isWhole (cs : List Char) : Bool :=
  let (digits, bound) := match cs with
    | '-' :: rest => (rest, Nat.pow 2 127 + 1)
    | '+' :: rest => (rest, Nat.pow 2 128)
    | cs => (cs, Nat.pow 2 128)
  let n? := match digits with
    | '0' :: 'x' :: rest => digitsIn? 16 rest
    | '0' :: 'o' :: rest => digitsIn? 8 rest
    | '0' :: 'b' :: rest => digitsIn? 2 rest
    | ds => digitsIn? 10 ds
  n?.any (· < bound)

/-- Whether a plain text would be read as something else than a text. -/
def isAmbiguous (s : String) : Bool :=
  s == "" || isNullWord s || (flagOf? s).isSome || isWhole s.toList || isFloat s.toList

/-! ## Which forms a text can take -/

/-- Whether a character can be written without an escape. -/
def isVisible (c : Char) : Bool :=
  let n := c.toNat
  c == '\n' || (0x20 ≤ n && n ≤ 0x7E) || (0xA0 ≤ n && n ≤ 0xFFFD && n ≠ 0xFEFF)

/-- Whether a neighbour is a blank, a line end, or missing. -/
def isClearing (c : Option Char) : Bool :=
  c.all fun c => isBlank c || isBreak c || c == '\r' || c == '\u0085'

/-- Whether a character, after `before` and before `after`, would end or change a plain text. -/
def isSign (before : Option Char) (c : Char) (after : Option Char) : Bool :=
  match before with
  | none =>
    "#,[]\x7b\x7d&*!|>'\"%@\x60".toList.contains c ||
      ("?:-".toList.contains c && isClearing after)
  | some b => (c == ':' && isClearing after) || (c == '#' && isClearing (some b))

/-- Whether some character of a text, given the one before it, is a sign. -/
def hasSign (before : Option Char) : List Char → Bool
  | [] => false
  | c :: rest => isSign before c rest.head? || hasSign (some c) rest

/-- Whether two neighbours satisfy a relation. -/
def hasPair (r : Char → Char → Bool) (cs : List Char) : Bool :=
  (cs.zip cs.tail).any fun (a, b) => r a b

def isOuter (f : Char → Bool) (cs : List Char) : Bool := cs.head?.any f || cs.getLast?.any f

def canBePlain (cs : List Char) : Bool :=
  cs.all isVisible && !cs.any isBreak && !isOuter (· == ' ') cs && !hasSign none cs &&
    !(["---", "..."].contains (String.ofList (cs.take 3)))

def canBeSingleQuoted (cs : List Char) : Bool :=
  cs.all isVisible &&
    !hasPair (fun a b => (a == ' ' && isBreak b) || (isBreak a && b == ' ')) cs

def canBeLiteral (cs : List Char) : Bool :=
  cs.all isVisible && cs.getLast? != some ' ' && !hasPair (fun a b => a == ' ' && isBreak b) cs

/-! ## The forms -/

/-- Indentation. -/
def pad (n : Nat) : List Char := List.replicate n ' '

/-- Lines after a line end, indented; empty lines stay empty. -/
def indented (n : Nat) (afterBreak : Bool) : List Char → List Char
  | [] => []
  | c :: rest =>
    if isBreak c then c :: indented n true rest
    else (if afterBreak then pad n else []) ++ c :: indented n false rest

/-- A literal block without the end of its last line. -/
def literal (n : Nat) (cs : List Char) : List Char :=
  let start := if cs.head?.any fun c => c == ' ' || isBreak c then ['2'] else []
  let last := match cs.reverse with
    | [] => ['-']
    | c :: before =>
      if !isBreak c then ['-'] else if before.head?.all isBreak then ['+'] else []
  let body := indented n true cs
  ['|'] ++ start ++ last ++ '\n' :: if body.getLast? = some '\n' then body.dropLast else body

/-- Single-quoted characters; a line end is followed by indentation. -/
def singleQuoted (n : Nat) (cs : List Char) : List Char :=
  let body := indented n false (cs.flatMap fun c => if c = '\'' then ['\'', '\''] else [c])
  let last := if cs.getLast?.any isBreak then pad n else []
  ['\''] ++ body ++ last ++ ['\'']

/-- Upper-case hexadecimal digits of a number, at least `width`. -/
def hex (width n : Nat) : List Char :=
  let digits := (Nat.toDigits 16 n).map Char.toUpper
  List.replicate (width - digits.length) '0' ++ digits

/-- A character in double quotes. -/
def escape (c : Char) : List Char :=
  let named := [('\x00', '0'), ('\x07', 'a'), ('\x08', 'b'), ('\t', 't'), ('\n', 'n'), ('\x0b', 'v'),
    ('\x0c', 'f'), ('\r', 'r'), ('\x1b', 'e'), ('"', '"'), ('\\', '\\'), ('\u0085', 'N'),
    ('\u2028', 'L'), ('\u2029', 'P')]
  match named.lookup c with
  | some e => ['\\', e]
  | none =>
    let n := c.toNat
    if isVisible c then [c]
    else if n ≤ 0xFF then '\\' :: 'x' :: hex 2 n
    else if n ≤ 0xFFFF then '\\' :: 'u' :: hex 4 n
    else '\\' :: 'U' :: hex 8 n

def doubleQuoted (cs : List Char) : List Char := ['"'] ++ cs.flatMap escape ++ ['"']

/-- A text in its form; further lines are indented by `n`. -/
def textForm (n : Nat) (s : String) : List Char :=
  let cs := s.toList
  if cs.contains '\n' then
    if canBeLiteral cs then literal n cs else doubleQuoted cs
  else if !isAmbiguous s && canBePlain cs then cs
  else if canBeSingleQuoted cs then singleQuoted n cs
  else doubleQuoted cs

/-- Whether a key fits before its colon. -/
def isSimpleKey (s : String) : Bool :=
  !s.toList.any isBreak && s.utf8ByteSize ≤ 128

/-- A key with its colon, at the given indentation. -/
def keyForm (n : Nat) (s : String) : List Char :=
  if isSimpleKey s then pad n ++ textForm n s ++ [':']
  else pad n ++ ['?', ' '] ++ textForm (n + 2) s ++ '\n' :: pad n ++ [':']

mutual

/-- What stands after a key or a dash: a scalar or an empty collection on the same line, and other
collections on the lines after. -/
def valueForm (n : Nat) : Json → List Char
  | .null => " null\n".toList
  | .bool b => (if b then " true\n" else " false\n").toList
  | .num x => ' ' :: x.text.toList ++ ['\n']
  | .str s => ' ' :: textForm (n + 2) s ++ ['\n']
  | .arr [] => " []\n".toList
  | .arr (v :: vs) => '\n' :: itemForm n v ++ itemForms n vs
  | .obj [] => " {}\n".toList
  | .obj (m :: ms) => '\n' :: memberForms (n + 2) (m :: ms)

/-- An item after its dash; the first line of a collection stands beside the dash. -/
def itemForm (n : Nat) : Json → List Char
  | .arr (v :: vs) => pad n ++ ['-', ' '] ++ (itemForm (n + 2) v).drop (n + 2) ++ itemForms (n + 2) vs
  | .obj (m :: ms) => pad n ++ ['-', ' '] ++ (memberForms (n + 2) (m :: ms)).drop (n + 2)
  | v => pad n ++ '-' :: valueForm n v

def itemForms (n : Nat) : List Json → List Char
  | [] => []
  | v :: vs => itemForm n v ++ itemForms n vs

def memberForms (n : Nat) : List (String × Json) → List Char
  | [] => []
  | (k, v) :: ms => keyForm n k ++ valueForm n v ++ memberForms n ms

end

/-- An object as a YAML document. -/
def write (members : Json.Members) : String :=
  if members = [] then "{}\n" else String.ofList (memberForms 0 members)

end VaultAccess.Yaml
