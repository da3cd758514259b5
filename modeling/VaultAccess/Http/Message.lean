import VaultAccess.Json.Reader
import VaultAccess.Json.Writer
import VaultAccess.Text.Edges
import VaultAccess.Url.Basic
import VaultAccess.Vault.Exchange

/-!
# Messages on the wire

What is sent for a request, and what a reply says. The body of a reply is JSON or, failing that,
plain text.
-/
namespace VaultAccess.Http

/-- What is sent to the server. -/
structure Message where
  method : Vault.Method
  url : Url
  token : String
  «namespace» : Option String
  body : Option String
  /-- The URL that a message comes from which was sent on by a reply. -/
  referer : Option String
  deriving DecidableEq, Repr

/-- What comes of sending a message. -/
inductive Delivery where
  /-- A reply, which may name a location to go to. -/
  | reply (status : Nat) (location : Option String) (body : List UInt8)
  /-- No server, or none that answers. -/
  | lost
  /-- The caller aborted the request before it was answered. -/
  | aborted
  deriving DecidableEq, Repr

/-! ## Queries -/

/-- Bytes that stand for themselves in the form of a query. -/
def isFormPlain (b : UInt8) : Bool :=
  (48 ≤ b && b ≤ 57) || (65 ≤ b && b ≤ 90) || (97 ≤ b && b ≤ 122) ||
    b == 42 || b == 45 || b == 46 || b == 95

/-- A text in the form of a query, where a plus sign stands for a blank. -/
def formText (s : String) : String :=
  Text.Percent.ofAscii ((Text.Utf8.encode s).flatMap fun b =>
    if isFormPlain b then [b] else if b == 32 then [43] else Text.Percent.escape b)

/-- Pairs in the form of a query. -/
def formPairs (pairs : List (String × String)) : String :=
  "&".intercalate (pairs.map fun p => formText p.1 ++ "=" ++ formText p.2)

/-- The URL with pairs added to its query. -/
def withPairs (url : Url) (pairs : List (String × String)) : Url :=
  if pairs = [] then url
  else
    let before := match url.query with
      | none => ""
      | some q => if q = "" then "" else q ++ "&"
    { url with query := some (before ++ formPairs pairs) }

/-! ## Headers -/

/-- The header that carries the token. -/
def tokenHeader : String := "X-Vault-Token"

/-- The header that selects a namespace. -/
def namespaceHeader : String := "X-Vault-Namespace"

/-- Whether a text can be the value of a header: no control characters but the tab. -/
def isHeaderValue (s : String) : Bool :=
  s.toList.all fun c => c == '\t' || (0x20 ≤ c.toNat && c.toNat ≠ 0x7F)

namespace Message

/-- The headers that go with a message. -/
def headers (m : Message) : List (String × String) :=
  [(tokenHeader, m.token)] ++ (m.namespace.toList.map fun n => (namespaceHeader, n)) ++
    (m.body.toList.map fun _ => ("Content-Type", "application/json")) ++
    (m.referer.toList.map fun url => ("Referer", url))

/-- What the first line asks for: path and query. -/
def target (m : Message) : String := m.url.path ++ m.url.query.elim "" ("?" ++ ·)

end Message

/-! ## Replies -/

/-- The value of a body. Blanks around it do not count, and an empty body is null. -/
def bodyOf (bytes : List UInt8) : Json :=
  let text := Text.trim (Text.Utf8.decodeLossy bytes)
  if text = "" then .null else (Json.ofText? text).getD (.str text)

end VaultAccess.Http
