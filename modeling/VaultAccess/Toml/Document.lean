import VaultAccess.Toml.Scalar

/-!
# Reading TOML

Headers and assignments, one a line. Scanners take the characters ahead and give back what they
read with those after it.
-/
namespace VaultAccess.Toml

/-- What is read with the characters after it. -/
abbrev Scanned (α : Type) := Option (α × List Char)

/-- How many lists and tables may stand in one another, and how many parts a key may have. -/
def maxDepth : Nat := 79

def isBlank (c : Char) : Bool := c == ' ' || c == '\t'

def skipBlank (cs : List Char) : List Char := cs.dropWhile isBlank

/-- Whether a character may stand in a comment or a text of one line. -/
def isPlain (c : Char) : Bool :=
  c == '\t' || (0x20 ≤ c.toNat && c.toNat ≠ 0x7F)

/-- The characters after a comment, if one is ahead. -/
def skipComment (cs : List Char) : List Char :=
  match cs with
  | '#' :: rest => rest.dropWhile isPlain
  | cs => cs

/-- The characters after a line end, if one is ahead. -/
def afterBreak? : List Char → Option (List Char)
  | '\n' :: rest => some rest
  | '\r' :: '\n' :: rest => some rest
  | _ => none

/-- The characters after blanks, comments and at most `fuel` line ends. -/
def skipLines (fuel : Nat) (cs : List Char) : List Char :=
  let cs := skipComment (skipBlank cs)
  match fuel, afterBreak? cs with
  | fuel + 1, some rest => skipLines fuel rest
  | _, _ => cs

/-! ## Texts -/

/-- The character that digits of a fixed number ahead stand for. -/
def codeAhead (count : Nat) (cs : List Char) : Scanned Char :=
  let digits := cs.take count
  if digits.length = count then
    match Text.digitsIn? 16 digits with
    | some n => if n.isValidChar then some (Char.ofNat n, cs.drop count) else none
    | none => none
  else none

/-- The character that the escape ahead stands for, after its backslash. -/
def escapeAhead : List Char → Scanned Char
  | 'b' :: rest => some ('\x08', rest)
  | 't' :: rest => some ('\t', rest)
  | 'n' :: rest => some ('\n', rest)
  | 'f' :: rest => some ('\x0c', rest)
  | 'r' :: rest => some ('\r', rest)
  | '"' :: rest => some ('"', rest)
  | '\\' :: rest => some ('\\', rest)
  | 'u' :: rest => codeAhead 4 rest
  | 'U' :: rest => codeAhead 8 rest
  | _ => none

/-- The characters of a text of one line up to its closing quote, latest first. -/
def lineText (quote : Char) (fuel : Nat) (before : List Char) (cs : List Char) :
    Scanned (List Char) :=
  match fuel, cs with
  | fuel + 1, c :: rest =>
    if c = quote then some (before, rest)
    else if c = '\\' ∧ quote = '"' then
      match escapeAhead rest with
      | none => none
      | some (e, rest) => lineText quote fuel (e :: before) rest
    else if isPlain c then lineText quote fuel (c :: before) rest
    else none
  | _, _ => none

/-- The characters of a text of several lines up to its closing quotes, latest first. Up to two
quotes stand for themselves, also before the closing ones. A backslash at the end of a line joins
it to the next that is not blank. -/
def linesText (quote : Char) (fuel : Nat) (before : List Char) (cs : List Char) :
    Scanned (List Char) :=
  match fuel, cs with
  | fuel + 1, c :: rest =>
    if c = quote then
      let quotes := cs.takeWhile (· == quote)
      let inside := if 3 ≤ quotes.length then min 2 (quotes.length - 3) else quotes.length
      let text := List.replicate inside quote ++ before
      if 3 ≤ quotes.length then some (text, cs.drop (inside + 3))
      else linesText quote fuel text (cs.drop inside)
    else if c = '\\' ∧ quote = '"' then
      match afterBreak? (skipBlank rest) with
      | some rest => linesText quote fuel before (rest.dropWhile fun c => isBlank c || c == '\n' || c == '\r')
      | none =>
        match escapeAhead rest with
        | none => none
        | some (e, rest) => linesText quote fuel (e :: before) rest
    else
      match afterBreak? cs with
      | some rest => linesText quote fuel ('\n' :: before) rest
      | none => if isPlain c then linesText quote fuel (c :: before) rest else none
  | _, _ => none

/-- The text ahead, after its first quote. -/
def textAhead (quote : Char) (cs : List Char) : Scanned String :=
  let found := match cs with
    | a :: b :: rest =>
      if a = quote ∧ b = quote then
        linesText quote (rest.length + 1) [] ((afterBreak? rest).getD rest)
      else lineText quote (cs.length + 1) [] cs
    | cs => lineText quote (cs.length + 1) [] cs
  found.map fun r => (String.ofList r.1.reverse, r.2)

/-! ## Keys -/

def isKeyChar (c : Char) : Bool := c.isAlphanum || c == '_' || c == '-'

/-- One part of a key. -/
def simpleKey (cs : List Char) : Scanned String :=
  match cs with
  | '"' :: rest =>
    (lineText '"' (cs.length + 1) [] rest).map fun r => (String.ofList r.1.reverse, r.2)
  | '\'' :: rest =>
    (lineText '\'' (cs.length + 1) [] rest).map fun r => (String.ofList r.1.reverse, r.2)
  | cs =>
    let name := cs.takeWhile isKeyChar
    if name = [] then none else some (String.ofList name, cs.drop name.length)

/-- A key of at least one and at most `count` parts with points between them. -/
def partsAhead (count : Nat) (cs : List Char) : Scanned (List String) :=
  match count with
  | 0 => none
  | count + 1 =>
    match simpleKey (skipBlank cs) with
    | none => none
    | some (part, rest) =>
      match skipBlank rest with
      | '.' :: rest => (partsAhead count rest).map fun r => (part :: r.1, r.2)
      | rest => some ([part], rest)

/-- The key ahead. -/
def keyAhead (cs : List Char) : Scanned (List String) := partsAhead maxDepth cs

/-! ## Values -/

/-- The characters of a scalar ahead. -/
def runAhead (cs : List Char) : List Char :=
  cs.takeWhile fun c => !(isBlank c || "\n\r,]\x7d#".toList.contains c)

/-- The scalar ahead that is no text. A blank may stand between a date and a time. -/
def scalarAhead (cs : List Char) : Scanned Value :=
  let run := runAhead cs
  let rest := cs.drop run.length
  let both := match (date? run), rest with
    | some d, ' ' :: after =>
      let time := runAhead after
      (offsetTime? time).map fun t =>
        (Value.moment (String.ofList (d ++ 'T' :: t)), after.drop time.length)
    | _, _ => none
  match both with
  | some found => some found
  | none => (scalar? run).map fun v => (v, rest)

mutual

/-- The value ahead, with at most `fuel` parts and at most `depth` lists and tables in one
another. -/
def valueAhead (depth fuel : Nat) (cs : List Char) : Scanned Value :=
  match fuel, depth, cs with
  | 0, _, _ => none
  | _ + 1, _, '"' :: rest => (textAhead '"' rest).map fun r => (.text r.1, r.2)
  | _ + 1, _, '\'' :: rest => (textAhead '\'' rest).map fun r => (.text r.1, r.2)
  | _ + 1, 0, '[' :: _ => none
  | _ + 1, 0, '{' :: _ => none
  | fuel + 1, depth + 1, '[' :: rest =>
    (itemsAhead depth fuel (skipLines rest.length rest)).map fun r => (.array r.1, r.2)
  | fuel + 1, depth + 1, '{' :: rest =>
    match skipBlank rest with
    | '}' :: rest => some (.table .inline [], rest)
    | rest => (pairsAhead depth fuel [] rest).map fun r => (.table .inline r.1, r.2)
  | _ + 1, _, cs => scalarAhead cs

/-- The items ahead up to their closing bracket. -/
def itemsAhead (depth fuel : Nat) (cs : List Char) : Scanned (List Value) :=
  match fuel, cs with
  | 0, _ => none
  | _ + 1, ']' :: rest => some ([], rest)
  | fuel + 1, cs =>
    match valueAhead depth fuel cs with
    | none => none
    | some (v, rest) =>
      match skipLines rest.length rest with
      | ']' :: rest => some ([v], rest)
      | ',' :: rest =>
        (itemsAhead depth fuel (skipLines rest.length rest)).map fun r => (v :: r.1, r.2)
      | _ => none

/-- The pairs ahead up to their closing brace, added to those before them. -/
def pairsAhead (depth fuel : Nat) (before : Entries) (cs : List Char) : Scanned Entries :=
  match fuel with
  | 0 => none
  | fuel + 1 =>
    match keyAhead cs with
    | some (path, '=' :: rest) =>
      match valueAhead depth fuel (skipBlank rest) with
      | none => none
      | some (v, rest) =>
        match before.assign? .header path v with
        | none => none
        | some entries =>
          match skipBlank rest with
          | '}' :: rest => some (entries, rest)
          | ',' :: rest => pairsAhead depth fuel entries rest
          | _ => none
    | _ => none

end

/-! ## Documents -/

/-- How far a document has been read: all entries, and the path of the last header. -/
structure Progress where
  root : Entries
  path : List String

namespace Progress

/-- Begin the table of the header ahead, after its first bracket. -/
def header (p : Progress) (cs : List Char) : Scanned Progress :=
  match cs with
  | '[' :: rest =>
    match keyAhead rest with
    | some (path, ']' :: ']' :: rest) => (p.root.append? path).map fun root => (⟨root, path⟩, rest)
    | _ => none
  | rest =>
    match keyAhead rest with
    | some (path, ']' :: rest) => (p.root.open? path).map fun root => (⟨root, path⟩, rest)
    | _ => none

/-- Add the assignment ahead to the table of the last header. -/
def assignment (p : Progress) (cs : List Char) : Scanned Progress :=
  match keyAhead cs with
  | some (path, '=' :: rest) =>
    match valueAhead maxDepth (2 * rest.length + 1) (skipBlank rest) with
    | none => none
    | some (v, rest) =>
      (p.root.change false .header p.path fun origin inner => inner.assign? origin path v).map
        fun root => ({ p with root }, rest)
  | _ => none

/-- Read all lines. -/
def lines (fuel : Nat) (p : Progress) (cs : List Char) : Option Entries :=
  match fuel with
  | 0 => none
  | fuel + 1 =>
    let found := match skipBlank cs with
      | [] => some (p, [])
      | '[' :: rest => p.header rest
      | c :: rest =>
        if c = '#' ∨ c = '\n' ∨ c = '\r' then some (p, c :: rest) else p.assignment (c :: rest)
    match found with
    | none => none
    | some (p, rest) =>
      match skipComment (skipBlank rest) with
      | [] => some p.root
      | rest =>
        match afterBreak? rest with
        | none => none
        | some rest => lines fuel p rest

end Progress

/-- The entries of a document. A mark of the byte order is no part of it. -/
def document? (text : String) : Option Entries :=
  let cs := match text.toList with
    | '\ufeff' :: rest => rest
    | cs => cs
  Progress.lines (cs.length + 1) ⟨[], []⟩ cs

end VaultAccess.Toml
