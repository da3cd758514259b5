import VaultAccess.Text.Edges
import VaultAccess.Text.Letters
import VaultAccess.Text.Utf8

/-!
# Files of variables

A file of variables holds assignments, one to a line. Single quotes keep all they enclose; double
quotes keep all but backslashes and dollar signs; a dollar sign stands before the name of another
variable. Quoted values may run over several lines. Variables that are set already stay as they
are, and reading ends at the first line that is no assignment.
-/
namespace VaultAccess.Variables

open Text (isBlank)

/-- Variables with their values. -/
abbrev Bindings := List (String × String)

/-! ## Lines -/

/-- Where in a line a scan is: outside quotes or in one of the two kinds, after a blank, after a
backslash. -/
inductive Place where
  | plain
  | blank
  | escape
  | strong
  | strongEscape
  | weak
  | weakEscape
  deriving DecidableEq, Repr

/-- The place after one more character. -/
def Place.next (p : Place) (c : Char) : Place :=
  match p with
  | escape => plain
  | strong => if c = '\\' then strongEscape else if c = '\'' then plain else strong
  | strongEscape => strong
  | weak => if c = '\\' then weakEscape else if c = '"' then plain else weak
  | weakEscape => weak
  | plain | blank =>
    if c = '\\' then escape
    else if c = '\'' then strong
    else if c = '"' then weak
    else if p = plain ∧ isBlank c ∧ c ≠ '\n' ∧ c ≠ '\r' then blank
    else plain

/-- What follows the next line end. -/
def afterLine (cs : List Char) : List Char := (cs.dropWhile (· != '\n')).drop 1

/-- Whether the line ahead holds nothing but a comment. -/
def isComment (cs : List Char) : Bool :=
  ((cs.takeWhile (· != '\n')).dropWhile isBlank).head? == some '#'

/-- The characters read before, in reverse, followed by those up to a line end outside quotes or to
a comment; and what comes after that line. -/
def lineAhead (p : Place) (before : List Char) : List Char → Option (List Char × List Char)
  | [] => if p = .plain then some (before.reverse, []) else none
  | c :: rest =>
    if p = .blank ∧ c = '#' then some (before.reverse, afterLine rest)
    else if c = '\n' ∧ p.next c = .plain then some (before.reverse, rest)
    else lineAhead (p.next c) (c :: before) rest

theorem afterLine_length (cs : List Char) : (afterLine cs).length ≤ cs.length := by
  have := (List.dropWhile_sublist (p := (· != '\n')) (l := cs)).length_le
  simp only [afterLine, List.length_drop]
  omega

theorem lineAhead_length {p : Place} {before cs line rest : List Char}
    (h : lineAhead p before cs = some (line, rest)) : rest.length ≤ cs.length - 1 := by
  induction cs generalizing p before with
  | nil =>
      simp only [lineAhead] at h
      split at h <;> simp_all
  | cons c cs ih =>
      simp only [lineAhead] at h
      split at h
      · simp only [Option.some.injEq, Prod.mk.injEq] at h
        have := afterLine_length cs
        simp [← h.2, this]
      · split at h
        · simp only [Option.some.injEq, Prod.mk.injEq] at h
          simp [h.2]
        · have := ih h
          simp only [List.length_cons]
          omega

/-- The lines of a file, up to one that does not end. -/
def lines (cs : List Char) : List (List Char) :=
  match cs with
  | [] => []
  | c :: cs =>
    if isComment (c :: cs) then lines (afterLine (c :: cs))
    else
      match _h : lineAhead .plain [] (c :: cs) with
      | none => []
      | some (line, rest) => line :: lines rest
termination_by cs.length
decreasing_by
  · by_cases hc : c = '\n'
    · subst hc
      simp [afterLine]
    · have := afterLine_length cs
      have he : afterLine (c :: cs) = afterLine cs := by simp [afterLine, hc]
      simp only [he, List.length_cons]
      omega
  · have := lineAhead_length _h
    simp only [List.length_cons] at this ⊢
    omega

/-! ## Values -/

/-- How far a value has been read. -/
inductive Mode where
  /-- Between double quotes, or outside quotes. -/
  | text (isQuoted : Bool)
  | strong
  | escape (isQuoted : Bool)
  /-- In the name of a variable, whose letters are in reverse. -/
  | name (isQuoted : Bool) (letters : List Char)
  /-- In a name between braces. -/
  | braced (isQuoted : Bool) (letters : List Char)
  /-- After a blank outside quotes. -/
  | done
  deriving DecidableEq, Repr

/-- The value of the variable whose name is given in reverse; one that is not set is empty. -/
def valueOf (env : Bindings) (letters : List Char) : List Char :=
  ((env.lookup (String.ofList letters.reverse)).getD "").toList

/-- Whether a character belongs to a name that stands without braces. -/
def isNamePart (c : Char) : Bool := c.isAlphanum || (128 ≤ c.toNat && Text.isLetter c)

/-- The mode after one more character, and what the character adds to the value. -/
def Mode.next (env : Bindings) (m : Mode) (c : Char) : Option (Mode × List Char) :=
  match m with
  | done => if c = ' ' ∨ c = '\t' then some (done, []) else none
  | strong => some (if c = '\'' then (text false, []) else (strong, [c]))
  | escape q =>
    if c = 'n' then some (text q, ['\n'])
    else if ['\\', '\'', '"', '$', ' '].contains c then some (text q, [c])
    else none
  | name q letters =>
    if isNamePart c then some (name q (c :: letters), [])
    else if c = '\x7b' ∧ letters = [] then some (braced q [], [])
    else if c = '$' then some (name q [], valueOf env letters)
    else some (text q, valueOf env letters ++ [c])
  | braced q letters =>
    some (if c = '\x7d' then (text q, valueOf env letters) else (braced q (c :: letters), []))
  | text q =>
    if c = '$' then some (name q [], [])
    else if c = '\\' then some (escape q, [])
    else if c = '"' then some (text !q, [])
    else if q then some (text q, [c])
    else if c = '\'' then some (strong, [])
    else if c = ' ' ∨ c = '\t' then some (done, [])
    else some (text q, [c])

/-- What the end of a value adds to it; quotes and braces must be closed. -/
def Mode.finish (env : Bindings) : Mode → Option (List Char)
  | strong | text true | escape true | braced _ _ | name true _ => none
  | name false letters => some (valueOf env letters)
  | text false | escape false | done => some []

/-- The value that a written form stands for; a comment may follow it. -/
def value? (env : Bindings) (m : Mode) : List Char → Option (List Char)
  | [] => m.finish env
  | c :: rest =>
    if m = .done ∧ c = '#' then some []
    else
      match m.next env c with
      | none => none
      | some (m, added) => (value? env m rest).map (added ++ ·)

/-! ## Assignments -/

/-- The name ahead, and what follows it. -/
def nameAhead? (cs : List Char) : Option (List Char × List Char) :=
  let name := cs.takeWhile fun c => c.isAlphanum || c == '_' || c == '.'
  if name.head?.any fun c => c.isAlpha || c == '_' then some (name, cs.drop name.length) else none

/-- What follows the equals sign ahead. -/
def valueAhead? (cs : List Char) : Option (List Char) :=
  match cs.dropWhile isBlank with
  | '=' :: rest => some (rest.dropWhile isBlank)
  | _ => none

/-- The name that a line assigns to, and the written form of its value. The word `export` may
stand before the name. -/
def sides? (cs : List Char) : Option (List Char × List Char) :=
  match nameAhead? cs with
  | none => none
  | some (name, rest) =>
    match valueAhead? rest with
    | some value => some (name, value)
    | none =>
      if name = "export".toList then
        (nameAhead? (rest.dropWhile isBlank)).bind fun (name, rest) =>
          (valueAhead? rest).map fun value => (name, value)
      else none

/-- The assignments of a line: none if it is empty or a comment, and otherwise one. -/
def assignments? (env : Bindings) (line : List Char) : Option Bindings :=
  match Text.dropEdges isBlank line with
  | [] => some []
  | '#' :: _ => some []
  | cs =>
    match sides? cs with
    | none => none
    | some (name, written) =>
      let value := if written.head? = some '#' then some [] else value? env (.text false) written
      value.map fun v => [(String.ofList name, String.ofList v)]

/-- The variables after the assignments of lines; those that are set stay. -/
def assign (env : Bindings) : List (List Char) → Bindings
  | [] => env
  | line :: rest =>
    match assignments? env line with
    | none => env
    | some new => assign (env ++ new.filter fun b => (env.lookup b.1).isNone) rest

/-! ## Files -/

/-- The bytes up to and with the next line end, and the rest. -/
def byteLines (bytes : List UInt8) : List (List UInt8) :=
  bytes.foldr (fun b lines =>
    match lines with
    | line :: rest => if b = 10 then [b] :: line :: rest else (b :: line) :: rest
    | [] => [[b]]) []

/-- The text of the lines before the first that is not UTF-8. -/
def readable (bytes : List UInt8) : List Char :=
  (byteLines bytes).foldr (fun line rest =>
    match Text.Utf8.decodeChars line with
    | .ok cs => cs ++ rest
    | .error _ => []) []

/-- The variables after the assignments of a file, which a byte order mark may introduce. -/
def load (env : Bindings) (content : List UInt8) : Bindings :=
  let cs := readable content
  assign env (lines (if cs.head? = some '\uFEFF' then cs.drop 1 else cs))

end VaultAccess.Variables
