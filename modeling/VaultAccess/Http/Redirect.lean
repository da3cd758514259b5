import VaultAccess.Fault
import VaultAccess.Http.Message
import VaultAccess.Url.Parse

/-!
# Redirections

A reply can send a message on to another place, anywhere. The message is then sent there, with the
headers that identify the caller, and so on for a limited number of times.
-/
namespace VaultAccess.Http

/-- How many times a message is sent on. -/
def maxRedirections : Nat := 10

/-- Whether a status sends a message on to the location that comes with it. -/
def isRedirection (status : Nat) : Bool := [301, 302, 303, 307, 308].contains status

/-- Whether messages can be sent to a URL. -/
def isReachable (url : Url) : Bool := url.scheme == "http" || url.scheme == "https"

namespace Message

/-- The URL from which the next message is said to come, without its user. Of an encrypted one
nothing is said in the clear. -/
def refererFor? (m : Message) (next : Url) : Option String :=
  if m.url.scheme = "https" ∧ next.scheme = "http" then none
  else some { m.url.withoutUser with fragment := none }.text

/-- The message as a status sends it on to a URL. A status may ask to look there instead of
repeating the request. -/
def redirected (m : Message) (status : Nat) (next : Url) : Message :=
  let looks : Bool := status == 303 || (m.method == .post && (status == 301 || status == 302))
  { m with
    url := next
    method := if looks then .get else m.method
    body := if looks then none else m.body
    referer := m.refererFor? next <|> m.referer }

/-- What follows from a delivery if it sends the message on: the next message, or a fault where none
can be sent. A location that is no URL is not followed. -/
def next? (m : Message) : Delivery → Option (Except Fault Message)
  | .reply status (some location) _ =>
    if isRedirection status then
      match m.url.join location with
      | .error _ => none
      | .ok url =>
        if isReachable url then some (.ok (m.redirected status url))
        else some (.error (.transport none
          ("builder error for url (" ++ url.withoutUser.text ++ ")")))
    else none
  | _ => none

/-- The fault of a message that is sent on once too often. -/
def tooFar (m : Message) : Fault :=
  .transport none ("error following redirect for url (" ++ m.url.withoutUser.text ++ ")")

end Message

/-- Send a message, and then what it is sent on as, so many times at most. Given is the last message
with its delivery. -/
def follow {M : Type → Type} [Monad M] (send : Message → M Delivery) :
    Nat → Message → M (Except Fault (Message × Delivery))
  | 0, m => do
    let delivery ← send m
    match m.next? delivery with
    | none => return .ok (m, delivery)
    | some _ => return .error m.tooFar
  | hops + 1, m => do
    let delivery ← send m
    match m.next? delivery with
    | none => return .ok (m, delivery)
    | some (.error e) => return .error e
    | some (.ok next) => follow send hops next

end VaultAccess.Http
