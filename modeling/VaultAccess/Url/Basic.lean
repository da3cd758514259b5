import VaultAccess.Text.Decimal
import VaultAccess.Text.Percent

/-!
# URLs

A URL in parts. Paths, queries and fragments are kept percent-encoded; a path that does not start
at a root is kept as it is written.
-/
namespace VaultAccess

/-- A host: a domain, or an address of four bytes or eight words. -/
inductive Url.Host where
  | domain (name : String)
  | ipv4 (address : Nat)
  | ipv6 (words : List Nat)
  deriving DecidableEq, Repr

/-- A URL. -/
structure Url where
  scheme : String
  username : String
  password : Option String
  host : Option Url.Host
  /-- Whether two slashes introduce the place of the host. -/
  hasAuthority : Bool
  port : Option Nat
  path : String
  /-- Whether the path does not start at a root, so that nothing can be joined to it. -/
  isRootless : Bool
  query : Option String
  fragment : Option String
  deriving DecidableEq, Repr

namespace Url

/-- Why a text is no URL. -/
inductive Fault where
  | noBase
  | rootlessBase
  | emptyHost
  | invalidPort
  | invalidIpv4
  | invalidIpv6
  | invalidDomain
  | invalidHostCharacter
  deriving DecidableEq, Repr

/-- The wording of a fault. -/
def Fault.message : Fault → String
  | noBase => "relative URL without a base"
  | rootlessBase => "relative URL with a cannot-be-a-base base"
  | emptyHost => "empty host"
  | invalidPort => "invalid port number"
  | invalidIpv4 => "invalid IPv4 address"
  | invalidIpv6 => "invalid IPv6 address"
  | invalidDomain => "invalid international domain name"
  | invalidHostCharacter => "invalid domain character"

/-! ## Percent-encoding in URLs -/

/-- Bytes of a text that are escaped: those outside ASCII, controls, and the given ones. -/
def isEscaped (extra : List Char) (b : UInt8) : Bool :=
  b < 0x20 || 0x7E < b || extra.any fun c => c.toNat == b.toNat

/-- A character with its bytes escaped as needed. -/
def escapeChar (extra : List Char) (c : Char) : List Char :=
  (Text.Utf8.encodeChar c).flatMap fun b =>
    if isEscaped extra b then (Text.Percent.escape b).map fun x => Char.ofNat x.toNat
    else [Char.ofNat b.toNat]

/-- A text with its characters escaped as needed. -/
def escapeChars (extra : List Char) (cs : List Char) : List Char :=
  cs.flatMap (escapeChar extra)

/-- What is escaped in a fragment. -/
def fragmentSet : List Char := [' ', '"', '<', '>', '\x60']

/-- What is escaped in a path. -/
def pathSet : List Char := fragmentSet ++ ['#', '?', '\x7b', '\x7d']

/-- What is escaped in a user name or password. -/
def userSet : List Char := pathSet ++ ['/', ':', ';', '=', '@', '[', '\\', ']', '^', '|']

/-- What is escaped in a query; with a well-known scheme the apostrophe too. -/
def querySet (isSpecial : Bool) : List Char :=
  [' ', '"', '<', '>', '#'] ++ if isSpecial then ['\''] else []

/-! ## Schemes -/

/-- The port of a scheme, where it has one. -/
def defaultPort? (scheme : String) : Option Nat :=
  if scheme = "http" ∨ scheme = "ws" then some 80
  else if scheme = "https" ∨ scheme = "wss" then some 443
  else if scheme = "ftp" then some 21
  else none

/-- Whether a scheme is one of those with rules of their own. -/
def isSpecialScheme (scheme : String) : Bool :=
  scheme == "file" || (defaultPort? scheme).isSome

/-! ## Text -/

/-- Four bytes, most significant first. -/
def ipv4Text (n : Nat) : String :=
  let byte (k : Nat) := Text.Decimal.write (n / Nat.pow 256 k % 256)
  byte 3 ++ "." ++ byte 2 ++ "." ++ byte 1 ++ "." ++ byte 0

/-- The longest run of zero words, of at least two: where it starts and how long it is. -/
def longestZeros (words : List Nat) : Option (Nat × Nat) :=
  let runs := (List.range words.length).map fun i =>
    (i, ((words.drop i).takeWhile (· == 0)).length)
  runs.foldl (fun best run =>
    match best with
    | some (_, n) => if n < run.2 then some run else best
    | none => if 2 ≤ run.2 then some run else none) none

/-- Eight words, the longest run of zeros cut short. -/
def ipv6Text (words : List Nat) : String :=
  let hex (ws : List Nat) := ":".intercalate (ws.map fun w => String.ofList (Nat.toDigits 16 w))
  match longestZeros words with
  | some (i, n) => hex (words.take i) ++ "::" ++ hex (words.drop (i + n))
  | none => hex words

def Host.text : Host → String
  | domain name => name
  | ipv4 n => ipv4Text n
  | ipv6 words => "[" ++ ipv6Text words ++ "]"

/-- User name and password as they stand before the host. -/
def userText (u : Url) : String :=
  match u.password with
  | some p => u.username ++ ":" ++ p ++ "@"
  | none => if u.username = "" then "" else u.username ++ "@"

/-- The text of a URL. -/
def text (u : Url) : String :=
  u.scheme ++ ":" ++
    (if u.hasAuthority then
      "//" ++ u.userText ++ (u.host.elim "" Host.text) ++
        (u.port.elim "" fun p => ":" ++ Text.Decimal.write p)
    else "") ++
    u.path ++ (u.query.elim "" ("?" ++ ·)) ++ (u.fragment.elim "" ("#" ++ ·))

/-- The URL without user name and password. -/
def withoutUser (u : Url) : Url := { u with username := "", password := none }

end Url

end VaultAccess
