import VaultAccess.Text.Digits
import VaultAccess.Yaml.Place

/-!
# Scalars

A scalar is plain, quoted, or a block of lines. Line ends in plain and quoted scalars, and in
folded blocks, become spaces; empty lines become line ends.
-/
namespace VaultAccess.Yaml

/-- How a scalar is written. -/
inductive Style where
  | plain
  | quoted
  | literal
  | folded
  deriving DecidableEq, Repr

/-- Blanks and line ends between words of a scalar. -/
structure Gap where
  /-- The blanks, if the line goes on after them. -/
  blanks : List Char
  /-- The line ends; `none` while the line goes on. -/
  breaks : Option (List Char)

namespace Gap

def none : Gap := ⟨[], Option.none⟩

/-- A line end that an escape hides. -/
def hidden : Gap := ⟨[], some []⟩

/-- What a gap stands for. A hidden line end leaves only the ends of empty lines. -/
def meaning (isHidden : Bool) (g : Gap) : List Char :=
  match g.breaks with
  | Option.none => g.blanks
  | some breaks =>
    if isHidden then breaks
    else
      match breaks with
      | ['\n'] => [' ']
      | '\n' :: rest => rest
      | breaks => breaks

end Gap

/-- The gap ahead. After a line end no tab may stand before the column `limit`. -/
def gapAhead (limit : Nat) (fuel : Nat) (g : Gap) (p : Place) : Option (Gap × Place) :=
  match fuel, p.ahead with
  | fuel + 1, c :: _ =>
    if isBlank c then
      match g.breaks with
      | none => gapAhead limit fuel ⟨g.blanks ++ [c], none⟩ p.step
      | some breaks =>
        if c = '\t' ∧ p.column < limit then none else gapAhead limit fuel ⟨[], some breaks⟩ p.step
    else if isBreak c then gapAhead limit fuel ⟨[], some (g.breaks.getD [] ++ [c])⟩ p.step
    else some (g, p)
  | _, _ => some (g, p)

/-! ## Plain scalars -/

/-- Whether the character ahead ends a plain scalar between brackets. -/
def endsFlow (c : Char) : Bool :=
  c == ',' || c == '[' || c == ']' || c == '{' || c == '}'

/-- The word ahead, put latest first before what comes before it. Between brackets a colon may not
touch a sign that ends the scalar. -/
def wordAhead (isFlow : Bool) (fuel : Nat) (before : List Char) (p : Place) :
    Option (List Char × Place) :=
  match fuel, p.ahead with
  | fuel + 1, c :: rest =>
    if isBlank c || isBreak c then some (before, p)
    else if c = ':' ∧ isFlow ∧ (rest.head?.any fun d => endsFlow d || d == '?') then none
    else if (c = ':' ∧ p.isClear 1) ∨ (isFlow ∧ endsFlow c) then some (before, p)
    else wordAhead isFlow fuel (c :: before) p.step
  | _, _ => some (before, p)

/-- The words of a plain scalar ahead, put latest first before what comes before them, and whether
a line end follows. -/
def plainWords (isFlow : Bool) (level fuel : Nat) (before : List Char) (g : Gap) (p : Place) :
    Option (List Char × Bool × Place) :=
  match fuel with
  | 0 => none
  | fuel + 1 =>
    let done := some (before, g.breaks.isSome, p)
    if p.seesDocumentMark || p.sees '#' || (!isFlow && g.breaks.isSome && p.column < level) then done
    else
      match wordAhead isFlow (p.ahead.length + 1) [] p with
      | none => none
      | some ([], _) => done
      | some (word, p) =>
        let text := word ++ (g.meaning false).reverse ++ before
        match gapAhead level (p.ahead.length + 1) Gap.none p with
        | none => none
        | some (g, p) => plainWords isFlow level fuel text g p

/-- The plain scalar ahead, and whether a line end follows it. -/
def plainAhead (isFlow : Bool) (level : Nat) (p : Place) : Option (String × Bool × Place) :=
  (plainWords isFlow level (p.ahead.length + 1) [] Gap.none p).map fun (cs, ended, p) =>
    (String.ofList cs.reverse, ended, p)

/-! ## Quoted scalars -/

/-- The character that `count` hexadecimal digits after a letter stand for. -/
def codeAhead (count : Nat) (p : Place) : Option (Char × Place) :=
  let digits := (p.ahead.drop 1).take count
  if digits.length = count then
    match Text.digitsIn? 16 digits with
    | some n => if n.isValidChar then some (Char.ofNat n, p.steps (count + 1)) else none
    | none => none
  else none

/-- The character that an escape of one letter stands for. -/
def escaped? (c : Char) : Option Char :=
  [('0', '\x00'), ('a', '\x07'), ('b', '\x08'), ('t', '\t'), ('\t', '\t'), ('n', '\n'),
    ('v', '\x0b'), ('f', '\x0c'), ('r', '\r'), ('e', '\x1b'), (' ', ' '), ('"', '"'), ('\'', '\''),
    ('/', '/'), ('\\', '\\'), ('N', '\u0085'), ('_', '\u00a0'), ('L', '\u2028'),
    ('P', '\u2029')].lookup c

/-- The character that the escape ahead stands for, after its backslash. -/
def escapeAhead (p : Place) : Option (Char × Place) :=
  match p.ahead with
  | [] => none
  | 'x' :: _ => codeAhead 2 p
  | 'u' :: _ => codeAhead 4 p
  | 'U' :: _ => codeAhead 8 p
  | c :: _ => (escaped? c).map fun e => (e, p.step)

/-- A word of a quoted scalar. -/
structure QuotedWord where
  /-- The characters of the word and of those before it, latest first. -/
  text : List Char
  /-- Whether an escape hides the line end after the word. -/
  hidesBreak : Bool
  next : Place

/-- The word ahead in a quoted scalar. -/
def quotedWord (quote : Char) (fuel : Nat) (before : List Char) (p : Place) : Option QuotedWord :=
  match fuel, p.ahead with
  | fuel + 1, c :: rest =>
    if isBlank c || isBreak c then some ⟨before, false, p⟩
    else if c = quote then
      if quote = '\'' ∧ rest.head? = some '\'' then
        quotedWord quote fuel ('\'' :: before) p.step.step
      else some ⟨before, false, p⟩
    else if quote = '"' ∧ c = '\\' then
      if rest.head?.any isBreak then some ⟨before, true, p.step.step⟩
      else
        match escapeAhead p.step with
        | none => none
        | some (e, p) => quotedWord quote fuel (e :: before) p
    else quotedWord quote fuel (c :: before) p.step
  | _, _ => some ⟨before, false, p⟩

/-- The words up to the closing quote, put latest first before what comes before them. -/
def quotedWords (quote : Char) (fuel : Nat) (before : List Char) (p : Place) :
    Option (List Char × Place) :=
  match fuel with
  | 0 => none
  | fuel + 1 =>
    if p.seesDocumentMark || p.ahead.isEmpty then none
    else
      match quotedWord quote (p.ahead.length + 1) before p with
      | none => none
      | some w =>
        if w.next.sees quote then some (w.text, w.next.step)
        else
          let start := if w.hidesBreak then Gap.hidden else Gap.none
          match gapAhead 0 (w.next.ahead.length + 1) start w.next with
          | none => none
          | some (g, p) => quotedWords quote fuel ((g.meaning w.hidesBreak).reverse ++ w.text) p

/-- The quoted scalar ahead, after its opening quote. -/
def quotedAhead (quote : Char) (p : Place) : Option (String × Place) :=
  (quotedWords quote (p.ahead.length + 2) [] p).map fun (cs, p) => (String.ofList cs.reverse, p)

/-! ## Block scalars -/

/-- What stands after the sign of a block scalar. -/
structure BlockHeader where
  /-- Whether the last line end is dropped (`some false`), or all of them are kept (`some true`). -/
  keep : Option Bool
  indent : Option Nat

/-- The header ahead, up to the end of its line. -/
def headerAhead (p : Place) : Option (BlockHeader × Place) :=
  let keepOf (c : Char) : Option Bool :=
    if c = '+' then some true else if c = '-' then some false else none
  let parsed : Option (BlockHeader × Place) :=
    match p.ahead with
    | c :: d :: _ =>
      if (keepOf c).isSome then
        if d = '0' then none
        else if d.isDigit then some (⟨keepOf c, some (d.toNat - 48)⟩, p.step.step)
        else some (⟨keepOf c, none⟩, p.step)
      else if c = '0' then none
      else if c.isDigit then
        if (keepOf d).isSome then some (⟨keepOf d, some (c.toNat - 48)⟩, p.step.step)
        else some (⟨none, some (c.toNat - 48)⟩, p.step)
      else some (⟨none, none⟩, p)
    | [c] =>
      if (keepOf c).isSome then some (⟨keepOf c, none⟩, p.step)
      else if c.isDigit ∧ c ≠ '0' then some (⟨none, some (c.toNat - 48)⟩, p.step)
      else if c = '0' then none
      else some (⟨none, none⟩, p)
    | [] => some (⟨none, none⟩, p)
  match parsed with
  | none => none
  | some (h, p) =>
    let p := p.skipWhile isBlank
    let p := if p.sees '#' then p.skipWhile fun c => !isBreak c else p
    match p.ahead with
    | [] => some (h, p)
    | c :: _ => if isBreak c then some (h, p.step) else none

/-- Empty lines and indentation ahead: the line ends, the largest column reached, and the place
after them. Where the indentation is known it is not exceeded; no tab may stand in it. -/
def emptyLines (indent : Option Nat) (fuel : Nat) (breaks : List Char) (largest : Nat) (p : Place) :
    Option (List Char × Nat × Place) :=
  match fuel with
  | 0 => none
  | fuel + 1 =>
    let spaces := (p.ahead.takeWhile (· == ' ')).length
    let p := p.steps (indent.elim spaces fun n => min spaces (n - p.column))
    let largest := max largest p.column
    let isInside := indent.all (p.column < ·)
    match p.ahead with
    | c :: _ =>
      if isInside ∧ c = '\t' then none
      else if isBreak c then emptyLines indent fuel (breaks ++ [c]) largest p.step
      else some (breaks, largest, p)
    | [] => some (breaks, largest, p)

/-- The lines of a block scalar as they are read: the text so far, latest first, the line end of
the last line, whether that line began with a blank, and the line ends of empty lines after it. -/
structure BlockLines where
  text : List Char
  lastBreak : List Char
  wasBlank : Bool
  breaks : List Char

/-- The lines ahead at the given indentation. -/
def blockLines (isLiteral : Bool) (indent fuel : Nat) (b : BlockLines) (p : Place) :
    Option (BlockLines × Place) :=
  match fuel with
  | 0 => none
  | fuel + 1 =>
    if p.column ≠ indent ∨ p.ahead = [] then some (b, p)
    else
      let beginsBlank := p.seesAny isBlank
      let joint :=
        if !isLiteral ∧ b.lastBreak = ['\n'] ∧ !b.wasBlank ∧ !beginsBlank then
          if b.breaks = [] then [' '] else []
        else b.lastBreak
      let line := p.ahead.takeWhile fun c => !isBreak c
      let p := p.steps line.length
      let lastBreak := p.ahead.take 1
      let text := line.reverse ++ b.breaks.reverse ++ joint.reverse ++ b.text
      match emptyLines (some indent) (p.ahead.length + 1) [] 0 p.step with
      | none => none
      | some (breaks, _, p) => blockLines isLiteral indent fuel ⟨text, lastBreak, beginsBlank, breaks⟩ p

/-- The block scalar ahead, after its sign, inside a collection at `level`. -/
def blockAhead (isLiteral : Bool) (level : Nat) (p : Place) : Option (String × Place) := do
  let (h, p) ← headerAhead p
  let given := h.indent.map (level - 1 + ·)
  let (breaks, largest, p) ← emptyLines given (p.ahead.length + 1) [] 0 p
  let indent := given.getD (max largest (max level 1))
  let (b, p) ← blockLines isLiteral indent (p.ahead.length + 1) ⟨[], [], false, breaks⟩ p
  let tail := match h.keep with
    | some false => []
    | none => b.lastBreak
    | some true => b.lastBreak ++ b.breaks
  pure (String.ofList (b.text.reverse ++ tail), p)

end VaultAccess.Yaml
