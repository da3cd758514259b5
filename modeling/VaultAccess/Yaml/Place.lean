/-!
# Places in a YAML text

A text is read with its line ends made equal, and the line and column of the character ahead are
kept, for both have a meaning: indentation nests, and a key stands on one line.
-/
namespace VaultAccess.Yaml

def isBreak (c : Char) : Bool := c == '\n' || c == '\u2028' || c == '\u2029'

def isBlank (c : Char) : Bool := c == ' ' || c == '\t'

/-- Whether a character may stand in a text. -/
def isPrintable (c : Char) : Bool :=
  let n := c.toNat
  c == '\t' || c == '\n' || c == '\r' || (0x20 ≤ n && n ≤ 0x7E) || n == 0x85 ||
    (0xA0 ≤ n && n ≠ 0xFFFE && n ≠ 0xFFFF)

/-- The characters with all line ends of other systems made line feeds; they come latest first,
after those before them. -/
def equalBreaks (before : List Char) : List Char → List Char
  | [] => before
  | '\r' :: '\n' :: rest => equalBreaks ('\n' :: before) rest
  | '\r' :: rest => equalBreaks ('\n' :: before) rest
  | '\u0085' :: rest => equalBreaks ('\n' :: before) rest
  | c :: rest => equalBreaks (c :: before) rest

/-- The characters ahead, and the place of the first of them. -/
structure Place where
  ahead : List Char
  line : Nat
  column : Nat
  /-- How many characters come before. -/
  index : Nat

namespace Place

/-- The start of a text. A mark of the byte order is no part of it. -/
def start (text : String) : Place :=
  let cs := (equalBreaks [] text.toList).reverse
  ⟨cs.dropWhile (· == '\ufeff'), 0, 0, 0⟩

/-- The place after the character ahead. -/
def step (p : Place) : Place :=
  match p.ahead with
  | [] => p
  | c :: rest =>
    if isBreak c then ⟨rest, p.line + 1, 0, p.index + 1⟩
    else ⟨rest, p.line, p.column + 1, p.index + 1⟩

/-- The place after `n` characters. -/
def steps : Nat → Place → Place
  | 0, p => p
  | n + 1, p => steps n p.step

/-- Whether the character ahead is the given one. -/
def sees (p : Place) (c : Char) : Bool := p.ahead.head? == some c

/-- Whether the character ahead belongs to a class. -/
def seesAny (p : Place) (f : Char → Bool) : Bool := p.ahead.head?.any f

/-- Whether a blank, a line end or the end of the text comes after `n` characters. -/
def isClear (p : Place) (n : Nat) : Bool :=
  match p.ahead.drop n with
  | [] => true
  | c :: _ => isBlank c || isBreak c

/-- Whether three signs that begin or end a document are ahead. -/
def seesDocumentMark (p : Place) : Bool :=
  p.column == 0 && (p.ahead.take 3 == ['-', '-', '-'] || p.ahead.take 3 == ['.', '.', '.']) &&
    p.isClear 3

/-- The place after the characters of a class. -/
def skipWhile (p : Place) (f : Char → Bool) : Place :=
  steps (p.ahead.takeWhile f).length p

end Place

end VaultAccess.Yaml
