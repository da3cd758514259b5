import VaultAccess.Text.Fields
import VaultAccess.Text.Percent
import VaultAccess.Yaml.Scalar

/-!
# Tokens of YAML

A text is cut into tokens. Indentation opens and closes collections, and a key is noticed only at
its colon, so tokens are also put before others that are already there.
-/
namespace VaultAccess.Yaml

/-- A token. -/
inductive Token where
  /-- A version directive, and whether the version is known. -/
  | version (isKnown : Bool)
  /-- A tag directive: a handle and what it stands for. -/
  | handle (name meaning : String)
  | documentStart
  | documentEnd
  | blockSequence
  | blockMapping
  | blockEnd
  | flowSequence
  | flowSequenceEnd
  | flowMapping
  | flowMappingEnd
  | entry
  | comma
  | key
  | value
  | alias (name : String)
  | anchor (name : String)
  | tag (handle suffix : String)
  | scalar (text : String) (style : Style)
  deriving DecidableEq, Repr

/-- A place where a key may have begun. -/
structure KeyPlace where
  /-- Whether nothing but a key can stand there. -/
  isRequired : Bool
  /-- How many tokens come before. -/
  number : Nat
  line : Nat
  column : Nat
  index : Nat

/-- How far a text has been cut into tokens. A level is zero outside all collections and otherwise
one more than the column of the innermost collection. -/
structure Scanner where
  place : Place
  tokens : Array Token
  level : Nat
  outer : List Nat
  /-- Where keys may have begun, innermost first: one for every open bracket, and one more. -/
  keys : List (Option KeyPlace)
  mayBeKey : Bool

namespace Scanner

def start (text : String) : Scanner := ⟨.start text, #[], 0, [], [none], true⟩

/-- Whether some bracket is open. -/
def isFlow (s : Scanner) : Bool := 1 < s.keys.length

def push (s : Scanner) (t : Token) : Scanner := { s with tokens := s.tokens.push t }

def insert (s : Scanner) (number : Nat) (t : Token) : Scanner :=
  { s with tokens := s.tokens.insertIdxIfInBounds number t }

def goto (s : Scanner) (p : Place) : Scanner := { s with place := p }

def step (s : Scanner) : Scanner := s.goto s.place.step

/-- Close the collections that begin after the given level. -/
def closeTo (level : Nat) (s : Scanner) : Scanner :=
  if s.isFlow then s
  else
    let closed := (s.level :: s.outer).takeWhile (level < ·)
    let left := (s.level :: s.outer).drop closed.length
    { s with
      tokens := s.tokens ++ closed.map fun _ => Token.blockEnd
      level := left.headD 0
      outer := left.tail }

/-- Open a collection at a column unless one is open there; `number` tokens come before it. -/
def openAt (column number : Nat) (t : Token) (s : Scanner) : Scanner :=
  if s.isFlow || column < s.level then s
  else { s.insert number t with level := column + 1, outer := s.level :: s.outer }

/-- Whether a key that began at this place cannot be one any more. -/
def isStale (s : Scanner) (k : KeyPlace) : Bool :=
  k.line < s.place.line || k.index + 1024 < s.place.index

/-- Forget keys that cannot be ones any more, unless they had to be. -/
def forgetStale (s : Scanner) : Option Scanner :=
  let stale (k : Option KeyPlace) : Bool := k.any s.isStale
  if s.keys.any fun k => stale k && k.any (·.isRequired) then none
  else some { s with keys := s.keys.map fun k => if stale k then none else k }

/-- Forget the innermost key, unless it had to be one. -/
def forgetKey (s : Scanner) : Option Scanner :=
  match s.keys with
  | [] => some s
  | k :: rest => if k.any (·.isRequired) then none else some { s with keys := none :: rest }

/-- Note that a key may begin here. -/
def noteKey (s : Scanner) : Option Scanner :=
  if s.mayBeKey then
    let p := s.place
    let k : KeyPlace :=
      ⟨!s.isFlow && s.level == p.column + 1, s.tokens.size, p.line, p.column, p.index⟩
    s.forgetKey.map fun s => { s with keys := some k :: s.keys.drop 1 }
  else some s

/-- The place of the next token: blanks, comments and line ends are passed. A tab may not stand
where a key may. -/
def toToken (fuel : Nat) (s : Scanner) : Scanner :=
  match fuel with
  | 0 => s
  | fuel + 1 =>
    let isSpace (c : Char) : Bool := c == ' ' || ((s.isFlow || !s.mayBeKey) && c == '\t')
    let p := s.place.skipWhile isSpace
    let p := if p.sees '#' then p.skipWhile fun c => !isBreak c else p
    if p.seesAny isBreak then
      toToken fuel { s with place := p.step, mayBeKey := s.mayBeKey || !s.isFlow }
    else s.goto p

/-! ## Names and tags -/

def isNameChar (c : Char) : Bool := c.isAlphanum || c == '_' || c == '-'

/-- The name of an anchor ahead. -/
def nameAhead (p : Place) : Option (String × Place) :=
  let name := p.ahead.takeWhile isNameChar
  let after := p.steps name.length
  if name = [] ∨ !(after.isClear 0 || after.seesAny "?:,]\x7d%@\x60".toList.contains) then none
  else some (String.ofList name, after)

/-- The characters of a tag. -/
def isTagChar (isVerbatim : Bool) (c : Char) : Bool :=
  isNameChar c || ";/?:@&=+$.!~*'()%".toList.contains c ||
    (isVerbatim && [',', '[', ']'].contains c)

/-- Whether two hexadecimal digits follow every percent sign. -/
def hasWholeEscapes : List UInt8 → Bool
  | [] => true
  | b :: rest =>
    (b != 37 || ((rest.take 2).length == 2 &&
      (rest.take 2).all fun d => (Text.Percent.hexValue? d).isSome)) && hasWholeEscapes rest

/-- The text of a tag, its escapes undone. -/
def tagText (cs : List Char) : Option String :=
  let bytes := Text.Utf8.encode (String.ofList cs)
  if hasWholeEscapes bytes then
    match Text.Utf8.decode (Text.Percent.decodeBytes bytes) with
    | .ok s => some s
    | .error _ => none
  else none

/-- The tag ahead, after its exclamation mark. -/
def tagAhead (p : Place) : Option (Token × Place) :=
  if p.sees '<' then
    let uri := (p.ahead.drop 1).takeWhile (isTagChar true)
    let after := p.steps (uri.length + 1)
    if uri = [] ∨ !after.sees '>' then none
    else (tagText uri).map fun t => (.tag "" t, after.step)
  else
    let name := p.ahead.takeWhile isNameChar
    let after := p.steps name.length
    let (handle, after) :=
      if after.sees '!' then ("!" ++ String.ofList name ++ "!", after.step) else ("!", p)
    let suffix := after.ahead.takeWhile (isTagChar false)
    if suffix = [] ∧ handle ≠ "!" then none
    else (tagText suffix).map fun t => (.tag handle t, after.steps suffix.length)

/-- The directive ahead, after its percent sign; unknown ones are refused. -/
def directiveAhead (p : Place) : Option (Token × Place) :=
  let name := String.ofList (p.ahead.takeWhile isNameChar)
  let after := (p.skipWhile isNameChar).skipWhile isBlank
  let isEnd (p : Place) : Bool :=
    let p := p.skipWhile isBlank
    p.ahead.isEmpty || p.sees '#' || p.seesAny isBreak
  let endOfLine (p : Place) : Place := p.skipWhile fun c => !isBreak c
  if name = "YAML" then
    let version := after.ahead.takeWhile fun c => c.isDigit || c == '.'
    let p := after.steps version.length
    match Text.fields '.' version with
    | [major, minor] =>
      if major ≠ [] ∧ minor ≠ [] ∧ major.length ≤ 9 ∧ minor.length ≤ 9 ∧ isEnd p then
        let minor := minor.dropWhile (· == '0')
        some (.version (major.dropWhile (· == '0') == ['1'] && (minor == ['1'] || minor == ['2'])),
          endOfLine p)
      else none
    | _ => none
  else if name = "TAG" then
    let handle := after.ahead.takeWhile fun c => c == '!' || isNameChar c
    let p := after.steps handle.length
    let uri := (p.skipWhile isBlank).ahead.takeWhile (isTagChar true)
    let q := (p.skipWhile isBlank).steps uri.length
    let inner := (handle.drop 1).dropLast
    if handle.head? = some '!' ∧ (handle = ['!'] ∨ handle.getLast? = some '!') ∧
        !inner.contains '!' ∧ p.seesAny isBlank ∧ q.isClear 0 ∧ isEnd q then
      (tagText uri).map fun t => (.handle (String.ofList handle) t, endOfLine q)
    else none
  else none

/-! ## Cutting -/

/-- A token of one sign. -/
def sign (t : Token) (mayBeKey : Bool) (s : Scanner) : Scanner :=
  { (s.push t).step with mayBeKey }

/-- An opening bracket; a key may begin with it. -/
def openBracket (t : Token) (s : Scanner) : Option Scanner :=
  s.noteKey.map fun s => { s.sign t true with keys := none :: s.keys }

/-- A closing bracket. -/
def closeBracket (t : Token) (s : Scanner) : Option Scanner :=
  s.forgetKey.map fun s =>
    { s.sign t false with keys := if s.isFlow then s.keys.tail else s.keys }

/-- The dash or question mark ahead, which opens a collection of its kind where there is none. -/
def opener (t collection : Token) (mayBeKey : Bool) (s : Scanner) : Option Scanner :=
  if !s.isFlow ∧ !s.mayBeKey then none
  else (s.openAt s.place.column s.tokens.size collection).forgetKey.map (sign t mayBeKey)

/-- The colon ahead: what came before it is a key if one may have begun. -/
def colon (s : Scanner) : Option Scanner :=
  match s.keys with
  | some k :: rest =>
    let s := (s.insert k.number .key).openAt k.column k.number .blockMapping
    some ({ s with keys := none :: rest }.sign .value false)
  | _ =>
    if s.isFlow then some (s.sign .value false)
    else if !s.mayBeKey then none
    else some ((s.openAt s.place.column s.tokens.size .blockMapping).sign .value true)

/-- A token that may begin a key, scanned after the character ahead. -/
def named (f : Place → Option (Token × Place)) (s : Scanner) : Option Scanner := do
  let s ← s.noteKey
  let (t, p) ← f s.place.step
  pure { (s.push t).goto p with mayBeKey := false }

/-- The block scalar ahead. -/
def block (isLiteral : Bool) (s : Scanner) : Option Scanner := do
  let s ← s.forgetKey
  let (text, p) ← blockAhead isLiteral s.level s.place.step
  pure { (s.push (.scalar text (if isLiteral then .literal else .folded))).goto p with mayBeKey := true }

/-- The plain scalar ahead. -/
def plain (s : Scanner) : Option Scanner := do
  let s ← s.noteKey
  let (text, ended, p) ← plainAhead s.isFlow s.level s.place
  pure { (s.push (.scalar text .plain)).goto p with mayBeKey := ended }

/-- A sign of a whole document, which closes all collections. -/
def outside (f : Scanner → Option Scanner) (s : Scanner) : Option Scanner :=
  (s.closeTo 0).forgetKey.bind f

/-- Whether the character ahead begins a plain scalar. -/
def beginsPlain (isFlow : Bool) (p : Place) : Bool :=
  match p.ahead with
  | [] => false
  | c :: rest =>
    !(isBlank c || isBreak c || "-?:,[]\x7b\x7d#&*!|>'\"%@\x60".toList.contains c) ||
      (c == '-' && !(rest.head?.any isBlank)) || (!isFlow && (c == '?' || c == ':') && !p.isClear 1)

/-- The scanner after one more token, whose place is ahead. -/
def scan (s : Scanner) : Option Scanner :=
  let p := s.place
  let isMark (c : Char) : Bool := p.column == 0 && p.seesDocumentMark && p.sees c
  if p.column = 0 ∧ p.sees '%' then
    s.outside fun s =>
      (directiveAhead p.step).map fun (t, p) => { (s.push t).goto p with mayBeKey := false }
  else if isMark '-' then
    s.outside fun s => some { (s.push .documentStart).goto (p.steps 3) with mayBeKey := false }
  else if isMark '.' then
    s.outside fun s => some { (s.push .documentEnd).goto (p.steps 3) with mayBeKey := false }
  else
    match p.ahead.headD ' ' with
    | '[' => s.openBracket .flowSequence
    | '{' => s.openBracket .flowMapping
    | ']' => s.closeBracket .flowSequenceEnd
    | '}' => s.closeBracket .flowMappingEnd
    | ',' => s.forgetKey.map (sign .comma true)
    | '*' => s.named fun p => (nameAhead p).map fun (n, p) => (.alias n, p)
    | '&' => s.named fun p => (nameAhead p).map fun (n, p) => (.anchor n, p)
    | '!' =>
      s.named fun p => (tagAhead p).bind fun (t, p) =>
        if p.isClear 0 || (s.isFlow && p.sees ',') then some (t, p) else none
    | '\'' => s.named fun p => (quotedAhead '\'' p).map fun (t, p) => (.scalar t .quoted, p)
    | '"' => s.named fun p => (quotedAhead '"' p).map fun (t, p) => (.scalar t .quoted, p)
    | c =>
      if c = '-' ∧ p.isClear 1 then s.opener .entry .blockSequence true
      else if c = '?' ∧ (s.isFlow || p.isClear 1) then s.opener .key .blockMapping !s.isFlow
      else if c = ':' ∧ (s.isFlow || p.isClear 1) then s.colon
      else if c = '|' ∧ !s.isFlow then s.block true
      else if c = '>' ∧ !s.isFlow then s.block false
      else if beginsPlain s.isFlow p then s.plain
      else none

/-- All tokens up to the end of the text. -/
def scanAll (fuel : Nat) (s : Scanner) : Option (List Token) :=
  match fuel with
  | 0 => none
  | fuel + 1 =>
    match s.forgetStale with
    | none => none
    | some s =>
      match (s.toToken (s.place.ahead.length + 1)).forgetStale with
      | none => none
      | some s =>
        if s.place.ahead = [] then
          (s.closeTo 0).forgetKey.map fun s => s.tokens.toList
        else
          match (s.closeTo (s.place.column + 1)).scan with
          | none => none
          | some s => scanAll fuel s

end Scanner

/-- The tokens of a text; controls are refused. -/
def tokens? (text : String) : Option (List Token) :=
  let s := Scanner.start text
  if text.toList.all isPrintable then s.scanAll (s.place.ahead.length + 2) else none

end VaultAccess.Yaml
