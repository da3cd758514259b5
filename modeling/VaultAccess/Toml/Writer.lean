import VaultAccess.Json.Writer
import VaultAccess.Toml.Document

/-!
# Writing TOML

Assignments come before headers; a member without a value is left out. A text stands in the first
of these forms that needs no escapes: double quotes, single quotes, three double quotes, three
single quotes.
-/
namespace VaultAccess.Toml

/-- The longest run of a character. -/
def longestRun (c : Char) (cs : List Char) : Nat :=
  (cs.foldl (fun (best, run) d => if d = c then (max best (run + 1), run + 1) else (best, 0))
    ((0, 0) : Nat × Nat)).1

/-- Whether a character can only be written by its code. -/
def needsCode (c : Char) : Bool :=
  c != '\t' && c != '\n' && (c.toNat < 0x20 || c == '\x7f')

/-- The four upper-case hexadecimal digits of a character's code. -/
def code (c : Char) : List Char :=
  let digits := (Nat.toDigits 16 c.toNat).map Char.toUpper
  List.replicate (4 - digits.length) '0' ++ digits

/-- A character between double quotes that is neither a quote nor a line end. -/
def escape (c : Char) : List Char :=
  match c with
  | '\x08' => ['\\', 'b']
  | '\t' => ['\\', 't']
  | '\x0c' => ['\\', 'f']
  | '\r' => ['\\', 'r']
  | '\\' => ['\\', '\\']
  | c => if c.toNat < 0x20 || c == '\x7f' then '\\' :: 'u' :: code c else [c]

/-- Characters between double quotes, where at most `allowed` quotes in a row stay as they are, of
which `run` are before. -/
def escapeAll (keepsBreaks : Bool) (allowed run : Nat) : List Char → List Char
  | [] => []
  | c :: rest =>
    if c = '"' then
      if allowed ≤ run then '\\' :: '"' :: escapeAll keepsBreaks allowed 0 rest
      else '"' :: escapeAll keepsBreaks allowed (run + 1) rest
    else if c = '\n' then
      (if keepsBreaks then ['\n'] else ['\\', 'n']) ++ escapeAll keepsBreaks allowed 0 rest
    else escape c ++ escapeAll keepsBreaks allowed 0 rest

def basic (cs : List Char) : List Char := ['"'] ++ escapeAll false 0 0 cs ++ ['"']

def apostrophes (cs : List Char) : List Char := ['\''] ++ cs ++ ['\'']

/-- A line end after opening quotes, if there are more of them. -/
def firstBreak (cs : List Char) : List Char := if cs.contains '\n' then ['\n'] else []

def longBasic (cs : List Char) : List Char :=
  ['"', '"', '"'] ++ firstBreak cs ++ escapeAll true 2 0 cs ++ ['"', '"', '"']

def longApostrophes (cs : List Char) : List Char :=
  ['\'', '\'', '\''] ++ firstBreak cs ++ cs ++ ['\'', '\'', '\'']

/-- A text in its form. -/
def textForm (s : String) : List Char :=
  let cs := s.toList
  let hasCodes := cs.any needsCode
  let isRaw := !hasCodes && !cs.contains '\\'
  let hasBreak := cs.contains '\n'
  let doubles := longestRun '"' cs
  let singles := longestRun '\'' cs
  if isRaw && doubles == 0 && !hasBreak then basic cs
  else if !hasCodes && singles == 0 && !hasBreak then apostrophes cs
  else if isRaw && doubles ≤ 2 then longBasic cs
  else if !hasCodes && singles ≤ 2 then longApostrophes cs
  else if hasBreak then longBasic cs
  else basic cs

/-- A key in its form: bare if it can be. -/
def keyForm (s : String) : List Char :=
  let cs := s.toList
  let hasCodes := cs.any fun c => needsCode c || c == '\n'
  if cs ≠ [] ∧ cs.all isKeyChar then cs
  else if !hasCodes && !cs.contains '\\' && !cs.contains '"' then basic cs
  else if !hasCodes && !cs.contains '\'' then apostrophes cs
  else basic cs

/-- The path of a header. -/
def pathForm (path : List String) : List Char :=
  List.intercalate ['.'] (path.map keyForm)

/-- Whether a value becomes tables with headers. -/
def isTables : Json → Bool
  | .obj _ => true
  | .arr [] => false
  | .arr items => items.all fun v => match v with
    | .obj _ => true
    | _ => false
  | _ => false

/-- A value on one line. Whole numbers have 64 bits with a sign; lists of anything but tables are
not written. -/
def plainForm : Json → Option (List Char)
  | .str s => some (textForm s)
  | .bool b => some (if b then "true".toList else "false".toList)
  | .num (.int n) => if n < Nat.pow 2 63 then some (Json.Number.int n).text.toList else none
  | .arr [] => some ['[', ']']
  | _ => none

/-- The assignments among members. -/
def assignments : List (String × Json) → Option (List Char)
  | [] => some []
  | (key, v) :: rest =>
    if isTables v || v matches .null then assignments rest
    else
      match plainForm v, assignments rest with
      | some form, some later => some (keyForm key ++ " = ".toList ++ form ++ '\n' :: later)
      | _, _ => none

mutual

/-- The tables among members, with their headers; each begins with an empty line. -/
def tableForms (path : List String) : List (String × Json) → Option (List Char)
  | [] => some []
  | (key, v) :: rest =>
    match tableForm (path ++ [key]) v, tableForms path rest with
    | some form, some later => some (form ++ later)
    | _, _ => none

/-- A table or a list of tables with their headers. -/
def tableForm (path : List String) : Json → Option (List Char)
  | .obj members =>
    match assignments members, tableForms path members with
    | some own, some inner => some ('\n' :: '[' :: pathForm path ++ ']' :: '\n' :: own ++ inner)
    | _, _ => none
  | .arr items => elementForms path items
  | _ => some []

/-- Tables of a list, each with a header in double brackets. -/
def elementForms (path : List String) : List Json → Option (List Char)
  | [] => some []
  | .obj members :: rest =>
    match assignments members, tableForms path members, elementForms path rest with
    | some own, some inner, some later =>
      some ("\n[[".toList ++ pathForm path ++ "]]\n".toList ++ own ++ inner ++ later)
    | _, _, _ => none
  | _ :: rest => elementForms path rest

end

/-- An object as a TOML document; `none` if a value has no form. -/
def write (members : Json.Members) : Option String :=
  match assignments members, tableForms [] members with
  | some own, some tables =>
    some (String.ofList (if own = [] then tables.drop 1 else own ++ tables))
  | _, _ => none

end VaultAccess.Toml
