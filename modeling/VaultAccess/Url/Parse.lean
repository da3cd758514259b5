import VaultAccess.Text.Edges
import VaultAccess.Url.Domain
import VaultAccess.Url.Ip

/-!
# Reading URLs

A text is read as a URL of its own, or relative to another URL. Controls and blanks around it are
dropped, and tabs and line ends everywhere.
-/
namespace VaultAccess.Url

/-- The characters of a text that count. -/
def significant (s : String) : List Char :=
  (Text.dropEdges (fun c => decide (c.toNat ≤ 0x20)) s.toList).filter fun c =>
    c != '\t' && c != '\n' && c != '\r'

/-- The scheme ahead in lower case, and what comes after its colon. -/
def schemeAhead? (cs : List Char) : Option (String × List Char) :=
  let name := cs.takeWhile fun c => c.isAlphanum || c == '+' || c == '-' || c == '.'
  match name, cs.drop name.length with
  | c :: _, ':' :: rest =>
    if c.isAlpha then some (String.ofList (name.map Char.toLower), rest) else none
  | _, _ => none

/-- Whether a character counts as a slash. -/
def isSlash (isSpecial : Bool) (c : Char) : Bool := c == '/' || (isSpecial && c == '\\')

/-! ## Paths -/

/-- Whether a segment stands for the directory it is in. -/
def isHere (segment : List Char) : Bool :=
  ["." , "%2e", "%2E"].contains (String.ofList segment)

/-- Whether a segment stands for the directory above. -/
def isAbove (segment : List Char) : Bool :=
  ["..", "%2e%2e", "%2e%2E", "%2E%2e", "%2E%2E", "%2e.", "%2E.", ".%2e", ".%2E"].contains
    (String.ofList segment)

/-- Whether a segment names a drive. -/
def isDrive : List Char → Bool
  | [c, d] => c.isAlpha && (d == ':' || d == '|')
  | _ => false

/-- Whether a path starts with a drive. -/
def isDriveAhead (cs : List Char) : Bool :=
  isDrive (cs.take 2) && (cs.drop 2).head?.all fun c => c == '/' || c == '\\' || c == '?' || c == '#'

/-- The path with a colon after the drive that it starts with. -/
def withColon (path : List Char) : List Char :=
  if isDriveAhead path then path.take 1 ++ ':' :: path.drop 2 else path

/-- The path up to its last slash. -/
def upToSlash (path : List Char) : List Char := Text.dropEnd (· != '/') path

/-- The path of the directory above the one that a path ends in; a drive is not left. -/
def above (path : List Char) : List Char :=
  let last := (path.dropLast.reverse.takeWhile (· != '/')).reverse
  let isBelow := path.getLast? == some '/' && path.dropLast.contains '/' && !isDrive last
  upToSlash (if isBelow then path.dropLast else path)

/-- The path after one more segment, which a slash may follow. -/
def addSegment (path segment : List Char) (hasSlash : Bool) : List Char :=
  if isAbove segment then
    let path := above path
    if hasSlash ∧ path.getLast? ≠ some '/' then path ++ ['/'] else path
  else if isHere segment then
    if path.getLast? = some '/' then path else path ++ ['/']
  else path ++ escapeChars pathSet segment ++ if hasSlash then ['/'] else []

/-- The path that segments lead to from another path. -/
def addSegments (isSpecial : Bool) (start cs : List Char) : List Char :=
  let segments := Text.fields '/' (cs.map fun c => if isSlash isSpecial c then '/' else c)
  addSegment (segments.dropLast.foldl (fun path s => addSegment path s true) start)
    (segments.getLastD []) false

/-- What stands before the query and the fragment, and those two. -/
def tailOf (isSpecial : Bool) (cs : List Char) :
    List Char × Option String × Option String :=
  let path := cs.takeWhile fun c => c != '?' && c != '#'
  let rest := cs.drop path.length
  let query := rest.takeWhile (· != '#')
  let escape (extra text : List Char) := String.ofList (escapeChars extra text)
  (path,
    match query with
    | '?' :: q => some (escape (querySet isSpecial) q)
    | _ => none,
    match rest.drop query.length with
    | '#' :: f => some (escape fragmentSet f)
    | _ => none)

/-- The path of a URL with a host: with a well-known scheme it is never empty. -/
def rootedPath (isSpecial : Bool) (cs : List Char) : List Char :=
  if isSpecial then
    match cs with
    | c :: rest => addSegments true ['/'] (if isSlash true c then rest else c :: rest)
    | [] => ['/']
  else
    match cs with
    | [] => []
    | '/' :: rest => addSegments false ['/'] rest
    | cs => addSegments false ['/'] cs

/-! ## Hosts -/

/-- An address between brackets, which are the first and the last character. -/
def bracketed (cs : List Char) : Except Fault Host :=
  if cs.getLast? = some ']' then (ipv6? cs.dropLast).map .ipv6 else .error .invalidIpv6

/-- The host of a well-known scheme. -/
def Host.ofSpecial (cs : List Char) : Except Fault Host :=
  match cs with
  | '[' :: rest => bracketed rest
  | cs =>
    match Text.Percent.decode (String.ofList cs) with
    | .error _ => .error .invalidDomain
    | .ok name =>
      match asciiDomain? name.toList with
      | none => .error .invalidDomain
      | some [] => .error .emptyHost
      | some ascii =>
        if endsInNumber ascii then (ipv4? ascii).map .ipv4
        else .ok (.domain (String.ofList ascii))

/-- The host of any other scheme; it may be missing. -/
def Host.ofPlain (cs : List Char) : Except Fault (Option Host) :=
  let forbidden := "\x00\t\n\r #/:<>?@[\\]^|".toList
  match cs with
  | [] => .ok none
  | '[' :: rest => (bracketed rest).map some
  | cs =>
    if cs.any forbidden.contains then .error .invalidHostCharacter
    else .ok (some (.domain (String.ofList (escapeChars [] cs))))

/-- What stands before the first colon outside brackets, and the rest. -/
def hostAhead (isInside : Bool) : List Char → List Char × List Char
  | [] => ([], [])
  | c :: rest =>
    if c = ':' ∧ !isInside then ([], c :: rest)
    else
      let ahead := hostAhead (if c = '[' then true else if c = ']' then false else isInside) rest
      (c :: ahead.1, ahead.2)

/-- The port that digits write, unless it is the one of the scheme. -/
def portOf (scheme : String) (digits : List Char) : Except Fault (Option Nat) :=
  if digits = [] then .ok none
  else if digits.all Char.isDigit then
    let n := (Text.numberIn? 10 digits).getD 0
    if 65535 < n then .error .invalidPort
    else .ok (if defaultPort? scheme = some n then none else some n)
  else .error .invalidPort

/-! ## Whole URLs -/

/-- A user name and a password that may be missing. -/
def userOf (cs : List Char) : String × Option String :=
  let name := cs.takeWhile (· != ':')
  let escape (text : List Char) := String.ofList (escapeChars userSet text)
  (escape name,
    match cs.drop name.length with
    | _ :: c :: rest => some (escape (c :: rest))
    | _ => none)

/-- The URL whose host stands ahead. -/
def ofAuthority (scheme : String) (cs : List Char) : Except Fault Url := do
  let isSpecial := isSpecialScheme scheme
  let place := cs.takeWhile fun c => !(isSlash isSpecial c || c == '?' || c == '#')
  let after := cs.drop place.length
  let hostAndPort := (place.reverse.takeWhile (· != '@')).reverse
  let beforeHost := place.take (place.length - hostAndPort.length)
  if beforeHost = ['@'] ∧ hostAndPort = [] ∧ after ≠ [] then throw .emptyHost
  let (username, password) := userOf beforeHost.dropLast
  let (hostText, portText) := hostAhead false hostAndPort
  if hostText = [] ∧ (isSpecial ∨ portText ≠ []) then throw .emptyHost
  let host ← if isSpecial then some <$> Host.ofSpecial hostText else Host.ofPlain hostText
  let digits := (portText.drop 1).takeWhile (· != '\\')
  let port ← portOf scheme digits
  if host = none ∧ (username ≠ "" ∨ password ≠ none) then throw .emptyHost
  let (pathText, query, fragment) := tailOf isSpecial (portText.drop (1 + digits.length) ++ after)
  pure { scheme, username, password, host, port, query, fragment
         hasAuthority := true
         path := String.ofList (rootedPath isSpecial pathText)
         isRootless := false }

/-- The URL of a file; two slashes introduce the host, which `localhost` and a drive stand for
not having. -/
def ofFile (cs : List Char) : Except Fault Url := do
  let (place, rest) := match cs with
    | a :: b :: rest =>
      if isSlash true a ∧ isSlash true b then
        let place := rest.takeWhile fun c => !(isSlash true c || c == '?' || c == '#')
        if isDrive place then ([], rest) else (place, rest.drop place.length)
      else ([], cs)
    | cs => ([], cs)
  let host ← if place = [] then pure none else some <$> Host.ofSpecial place
  let (pathText, query, fragment) := tailOf true rest
  let path := (rootedPath true pathText).dropWhile (· == '/')
  pure { scheme := "file", username := "", password := none, port := none, query, fragment
         host := if isDriveAhead path ∨ host = some (.domain "localhost") then none else host
         hasAuthority := true
         path := String.ofList ('/' :: withColon path)
         isRootless := false }

/-- The URL without a host, after its scheme. -/
def ofRest (scheme : String) (cs : List Char) : Url :=
  let (pathText, query, fragment) := tailOf false cs
  let path := match pathText with
    | '/' :: rest => addSegments false ['/'] rest
    | pathText => escapeChars [] pathText
  { scheme, username := "", password := none, host := none, port := none, query, fragment
    hasAuthority := false
    path := String.ofList path
    isRootless := pathText.head? ≠ some '/' }

/-- The URL after its scheme. -/
def ofScheme (scheme : String) (cs : List Char) : Except Fault Url :=
  if scheme = "file" then ofFile cs
  else if isSpecialScheme scheme then ofAuthority scheme (cs.dropWhile (isSlash true))
  else
    match cs with
    | '/' :: '/' :: rest => ofAuthority scheme rest
    | cs => .ok (ofRest scheme cs)

/-- A text as a URL. -/
def parse (s : String) : Except Fault Url :=
  match schemeAhead? (significant s) with
  | some (scheme, rest) => ofScheme scheme rest
  | none => .error .noBase

/-- What a text without a scheme means beside a URL. Beside a file, two slashes or a drive lead to
another place. -/
def beside (base : Url) (cs : List Char) : Except Fault Url :=
  let isSpecial := isSpecialScheme base.scheme
  let slashes := cs.takeWhile (isSlash true)
  let (pathText, query, fragment) := tailOf isSpecial cs
  match cs with
  | [] => .ok { base with fragment := none }
  | '#' :: _ => .ok { base with fragment }
  | '?' :: _ => .ok { base with query, fragment }
  | c :: rest =>
    if base.scheme = "file" ∧ (2 ≤ slashes.length ∨ isDriveAhead cs) then ofFile cs
    else if 2 ≤ slashes.length then
      ofAuthority base.scheme
        (if slashes.take 2 = ['/', '/'] then rest.drop 1 else cs.drop slashes.length)
    else
      let start := if isSlash true c then ['/'] else upToSlash base.path.toList
      let path := addSegments isSpecial start (if isSlash true c then pathText.drop 1 else pathText)
      .ok { base with path := String.ofList path, query, fragment }

/-- A text as a URL, relative to another one. -/
def join (base : Url) (s : String) : Except Fault Url :=
  let cs := significant s
  match schemeAhead? cs with
  | some (scheme, rest) =>
    if scheme = base.scheme ∧ isSpecialScheme scheme ∧ scheme ≠ "file" ∧
        (rest.takeWhile (isSlash true)).length < 2 then base.beside rest
    else ofScheme scheme rest
  | none =>
    if base.isRootless ∧ cs.head? ≠ some '#' then .error .rootlessBase
    else base.beside cs

end VaultAccess.Url
