import VaultAccess.Text.Fields
import VaultAccess.Url.Idna.Composition
import VaultAccess.Url.Idna.Mapping
import VaultAccess.Url.Idna.Properties

/-!
# Look-ups in the tables of characters

The tables are words: a code point or a range of them in hexadecimal, and perhaps where it leads.
-/
namespace VaultAccess.Url.Idna

/-- A range of code points, of which every `step`th counts, and where it leads. -/
structure Entry where
  first : Nat
  last : Nat
  step : Nat
  image : List Nat
  deriving Repr

/-- The number that hexadecimal digits in lower case write. -/
def hexadecimal (cs : List Char) : Nat :=
  cs.foldl (fun acc c => 16 * acc + (if c.toNat < 58 then c.toNat - 48 else c.toNat - 87)) 0

/-- The range that a word names. -/
def Entry.ofRange (cs : List Char) (image : List Nat) : Entry :=
  match Text.fields '-' cs, Text.fields ':' cs with
  | [a, b], _ => ⟨hexadecimal a, hexadecimal b, 1, image⟩
  | _, [a, b] => ⟨hexadecimal a, hexadecimal b, 2, image⟩
  | _, _ => ⟨hexadecimal cs, hexadecimal cs, 1, image⟩

/-- The entry that a word writes. -/
def Entry.ofWord (word : List Char) : Entry :=
  match Text.fields '>' word with
  | [range, image] => Entry.ofRange range ((Text.fields '+' image).map hexadecimal)
  | _ => Entry.ofRange word []

/-- Whether a code point belongs to an entry. -/
def Entry.holds (e : Entry) (n : Nat) : Bool :=
  e.first ≤ n && n ≤ e.last && (n - e.first) % e.step == 0

/-- The entries of a table. -/
def entries (lines : List String) : List Entry :=
  lines.flatMap fun line => (Text.fields ' ' line.toList).map Entry.ofWord

/-- The entry of a code point. -/
def find? (table : List Entry) (n : Nat) : Option Entry := table.find? (·.holds n)

/-- Whether a table has a code point. -/
def has (table : List Entry) (n : Nat) : Bool := table.any (·.holds n)

/-! ## The tables -/

def validTable : List Entry := entries Mapping.valid
def ignoredTable : List Entry := entries Mapping.ignored
def movedTable : List Entry := entries Mapping.moved
def expandedTable : List Entry := entries Mapping.expanded
def composedTable : List Entry := entries Composition.composed
def classTable : List Entry := entries Composition.classes
def markTable : List Entry := entries Properties.marks
def rightToLeftTable : List Entry := entries Properties.rightToLeft
def arabicLetterTable : List Entry := entries Properties.arabicLetters
def arabicNumberTable : List Entry := entries Properties.arabicNumbers
def europeanNumberTable : List Entry := entries Properties.europeanNumbers
def nonspacingTable : List Entry := entries Properties.nonspacingMarks
def neutralTable : List Entry :=
  entries (Properties.europeanSeparators ++ Properties.commonSeparators ++
    Properties.europeanTerminators ++ Properties.boundaryNeutrals ++ Properties.otherNeutrals)
def joiningLeftTable : List Entry := entries Properties.joiningLeft
def joiningBothTable : List Entry := entries Properties.joiningBoth
def joiningRightTable : List Entry := entries Properties.joiningRight
def transparentTable : List Entry := entries Properties.transparent

/-- What a domain name has in the place of a code point, unless the code point is refused. -/
def image? (n : Nat) : Option (List Nat) :=
  if n < 128 then some [if 65 ≤ n ∧ n ≤ 90 then n + 32 else n]
  else if has validTable n then some [n]
  else
    match find? expandedTable n, find? movedTable n with
    | some e, _ => some e.image
    | none, some e => some (e.image.map (· + (n - e.first)))
    | none, none => if has ignoredTable n then some [] else none

/-- The combining class of a code point. -/
def combiningClass (n : Nat) : Nat :=
  if n < 0x300 then 0
  else ((find? classTable n).bind (·.image.head?)).getD 0

/-- Whether a code point is a combining mark. -/
def isMark (n : Nat) : Bool := 0x300 ≤ n && has markTable n

/-! ## Directions of writing -/

/-- What a code point contributes to the direction of a label. -/
inductive Direction where
  | leftToRight
  | rightToLeft
  | arabicNumber
  | europeanNumber
  | nonspacing
  | neutral
  deriving DecidableEq, Repr

/-- The direction of a code point. -/
def direction (n : Nat) : Direction :=
  if n < 128 then
    if 48 ≤ n ∧ n ≤ 57 then .europeanNumber
    else if 97 ≤ n ∧ n ≤ 122 then .leftToRight
    else .neutral
  else if has rightToLeftTable n || has arabicLetterTable n then .rightToLeft
  else if has arabicNumberTable n then .arabicNumber
  else if has europeanNumberTable n then .europeanNumber
  else if has nonspacingTable n then .nonspacing
  else if has neutralTable n then .neutral
  else .leftToRight

/-! ## Joining -/

/-- Whether a letter joins the one that follows. -/
def joinsNext (n : Nat) : Bool := has joiningLeftTable n || has joiningBothTable n

/-- Whether a letter joins the one before. -/
def joinsPrevious (n : Nat) : Bool := has joiningRightTable n || has joiningBothTable n

/-- Whether a code point does not count for joining. -/
def isTransparent (n : Nat) : Bool := has transparentTable n

end VaultAccess.Url.Idna
