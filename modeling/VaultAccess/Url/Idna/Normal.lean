import VaultAccess.Url.Idna.Table

/-!
# Composed normal form

A text is taken apart, its marks are put into the order of their classes, and what can be composed
is composed. Hangul syllables are computed: a leading consonant, a vowel and perhaps a trailing
consonant.
-/
namespace VaultAccess.Url.Idna

/-- The parts of a Hangul syllable, by its number. -/
def hangulParts (s : Nat) : List Nat :=
  [0x1100 + s / 588, 0x1161 + s % 588 / 28] ++
    if s % 28 = 0 then [] else [0x11A7 + s % 28]

/-- A code point taken apart, with at most `fuel` steps. -/
def decomposed (fuel n : Nat) : List Nat :=
  match fuel with
  | 0 => [n]
  | fuel + 1 =>
    if n < 0xC0 then [n]
    else if 0xAC00 ≤ n ∧ n < 0xD7A4 then hangulParts (n - 0xAC00)
    else
      match find? composedTable n with
      | some e => e.image.flatMap (decomposed fuel)
      | none => [n]

/-- Put a code point before others whose marks are in order. -/
def insertMark (n : Nat) : List Nat → List Nat
  | [] => [n]
  | m :: rest =>
    if combiningClass m ≠ 0 ∧ combiningClass m < combiningClass n then m :: insertMark n rest
    else n :: m :: rest

/-- The code point that two others compose. -/
def composed? (a b : Nat) : Option Nat :=
  if 0x1100 ≤ a ∧ a < 0x1113 ∧ 0x1161 ≤ b ∧ b < 0x1176 then
    some (0xAC00 + ((a - 0x1100) * 21 + (b - 0x1161)) * 28)
  else if 0xAC00 ≤ a ∧ a < 0xD7A4 ∧ (a - 0xAC00) % 28 = 0 ∧ 0x11A7 < b ∧ b < 0x11C3 then
    some (a + (b - 0x11A7))
  else (composedTable.find? fun e => e.image == [a, b]).map (·.first)

/-- Compose what follows a starter; `marks` stand between it and the rest. -/
def composeFrom (starter : Nat) (marks : List Nat) : List Nat → List Nat
  | [] => starter :: marks
  | n :: rest =>
    let isBlocked := marks.getLast?.any fun m => decide (combiningClass n ≤ combiningClass m)
    match if isBlocked then none else composed? starter n with
    | some c => composeFrom c marks rest
    | none =>
      if combiningClass n = 0 then starter :: marks ++ composeFrom n [] rest
      else composeFrom starter (marks ++ [n]) rest

/-- The composed normal form of a text. -/
def normal (ns : List Nat) : List Nat :=
  if ns.all (· < 0xC0) then ns
  else
    match (ns.flatMap (decomposed 4)).foldr insertMark [] with
    | [] => []
    | n :: rest => composeFrom n [] rest

end VaultAccess.Url.Idna
