import VaultAccess.Http.Redirect
import VaultAccess.Settings.Basic

/-!
# Connections

Where requests go and what identifies the caller. Every request stays below the base URL: a path
that would lead elsewhere, or that would not arrive as it is written, is refused. A reply may still
send the message of a request on to another place.
-/
namespace VaultAccess.Http

open Vault

/-- A server's base URL, whose path ends in a slash, and what identifies the caller. -/
structure Connection where
  base : Url
  token : String
  «namespace» : Option String
  deriving DecidableEq, Repr

/-- The URL with a slash at the end of its path. -/
def withSlash (url : Url) : Url :=
  if url.path.toList.getLast? = some '/' then url else { url with path := url.path ++ "/" }

/-- The base URL that an address stands for. -/
def baseOf (address : String) : Except Fault Url :=
  let fault := "vault address '" ++ address ++ "' is not valid"
  match Url.parse address with
  | .error e => .error (.settings (fault ++ ": " ++ e.message))
  | .ok url =>
    if url.isRootless ∨ url.host = none then .error (.settings fault) else .ok (withSlash url)

namespace Connection

/-- The connection that settings ask for. -/
def ofSettings (s : VaultSettings) : Except Fault Connection := do
  let base ← baseOf s.address
  match s.token with
  | none => throw (.settings "vault token is not configured")
  | some token => pure ⟨base, token, s.namespace⟩

/-- The URL of a path below the base. -/
def endpoint (c : Connection) (path : String) : Except Fault Url :=
  let relative := path.toList.dropWhile (· == '/')
  match c.base.join (String.ofList relative) with
  | .error e => .error (.settings ("invalid request path '" ++ path ++ "': " ++ e.message))
  | .ok url =>
    if url.path.toList = c.base.path.toList ++ relative then .ok url
    else .error (.invalidName path)

/-- The message for a request to a URL. Only HTTP can be spoken. -/
def message (c : Connection) (r : Request) (url : Url) : Except Fault Message :=
  let m : Message :=
    ⟨r.method, withPairs url r.query, c.token, c.namespace, r.body.map Json.toText, none⟩
  if !(isHeaderValue c.token && c.namespace.all isHeaderValue) then
    .error (.transport none "builder error")
  else if !isReachable url then
    .error (.transport none ("builder error for url (" ++ m.url.withoutUser.text ++ ")"))
  else .ok m

/-- What is noted and sent for a request. -/
def outgoing (c : Connection) (r : Request) : List LogLine × Except Fault Message :=
  match c.endpoint r.path with
  | .error e => ([], .error e)
  | .ok url => ([⟨.debug, r.method.name ++ " " ++ url.path⟩], c.message r url)

end Connection

/-- What is noted of the last delivery for a request, and the answer that it stands for. -/
def incoming (r : Request) : Except Fault (Message × Delivery) → List LogLine × Answer
  | .error fault => ([], .error fault)
  | .ok (_, .reply status _ body) =>
    ([⟨.debug, r.method.name ++ " " ++ r.path ++ " -> " ++ Text.Decimal.write status⟩],
      .ok ⟨status, bodyOf body⟩)
  | .ok (m, .lost) =>
    let place := m.url.withoutUser.text
    ([], .error (.transport none ("error sending request for url (" ++ place ++ ")")))
  | .ok (_, .aborted) => ([], .error .cancelled)

/-- What carries messages, over a state of its own. -/
abbrev Wire (σ : Type) := Message → σ → Delivery × σ

/-- Send a message over a wire, and wherever replies send it on. -/
def Wire.follow {σ : Type} (wire : Wire σ) (hops : Nat) (m : Message) (s : σ) :
    Except Fault (Message × Delivery) × σ := (Http.follow (M := StateM σ) wire hops m).run s

/-- The gateway that sends requests over a wire. Both ways are noted in the log. -/
def Connection.gateway {σ : Type} (c : Connection) (wire : Wire σ) (log : LogLine → σ → σ) :
    Program.Gateway σ where
  log := log
  answer r s :=
    let noted (lines : List LogLine) (s : σ) := lines.foldl (fun s line => log line s) s
    let (before, sent) := c.outgoing r
    match sent with
    | .error e => (.error e, noted before s)
    | .ok m =>
      let (last, s) := wire.follow maxRedirections m (noted before s)
      let (after, answer) := incoming r last
      (answer, noted after s)

end VaultAccess.Http
