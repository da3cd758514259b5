import VaultAccess.Connector.Session

/-!
# Racing mounting passes

Connectors that share a vault mount their backends side by side. Each runs one pass at a time, and
another after one that failed. The vault mounts a backend where the site is free, says of a taken
site that it is in use, and may fail any request. A step is one step of one connector, and which
one is open.
-/
namespace VaultAccess

open Vault

/-- Where a backend is mounted. Paths that differ in outer slashes are one. -/
structure Site where
  kind : BackendKind
  path : String
  deriving DecidableEq, Repr

/-- The path at which a site is mounted. -/
def Site.endpoint (s : Site) : String :=
  (match s.kind with
    | .auth => Endpoint.authMethods
    | .secrets => Endpoint.mounts) ++ "/" ++ s.path

def Backend.site (b : Backend) : Site := ⟨b.kind, Text.trimSlashes b.path⟩

namespace Connector

/-- Whether an answer is a failure: neither a success nor word that a path is taken. -/
def IsFailure : Answer → Prop
  | .error _ => True
  | .ok r => ¬r.isSuccess ∧ ¬(r.status = 400 ∧
      ∃ m ∈ r.errorMessages, Backend.alreadyInUse.toList <:+: m.toList)

/-- What a vault with these sites taken answers to a request, and the sites taken then. -/
inductive VaultReply (taken : List Site) (request : Request) : Answer → List Site → Prop
  | mounts {site : Site} {r : Response} (hmethod : request.method = .post)
      (hpath : request.path = site.endpoint) (hfree : site ∉ taken) (hsuccess : r.isSuccess) :
      VaultReply taken request (.ok r) (taken ++ [site])
  | inUse {site : Site} {r : Response} (hmethod : request.method = .post)
      (hpath : request.path = site.endpoint) (htaken : site ∈ taken) (hstatus : r.status = 400)
      (hmessage : "path is already in use at " ++ site.path ++ "/" ∈ r.errorMessages) :
      VaultReply taken request (.ok r) taken
  | fails {answer : Answer} (hfailure : IsFailure answer) : VaultReply taken request answer taken

/-- A connector, as far as its mounting passes go. -/
structure Mounter where
  backends : List Backend
  memory : Memory
  /-- What the pass under way asked so far, and what is left of it. -/
  pass : Option (List Exchange × Program (Except Fault (List Backend.Outcome) × Memory))
  /-- What each pass that came to its end asked and gave. -/
  ended : List (List Exchange × Except Fault (List Backend.Outcome))

/-- A connector that has not begun. -/
def Mounter.idle (backends : List Backend) : Mounter := ⟨backends, .fresh, none, []⟩

/-- Connectors, and the vault they share. -/
structure Race where
  taken : List Site
  mounters : List Mounter
  /-- All that was asked, in the order in which the vault answered. -/
  answered : List Exchange

namespace Race

/-- Connectors that have not begun. -/
def start (taken : List Site) (lists : List (List Backend)) : Race :=
  ⟨taken, lists.map Mounter.idle, []⟩

/-- The race with one connector in another state. -/
def put (race : Race) (i : Nat) (m : Mounter) : Race :=
  { race with mounters := race.mounters.set i m }

/-- One step of one connector. -/
inductive Step (race : Race) : Race → Prop
  | begin {i : Nat} {m : Mounter} (hm : race.mounters[i]? = some m) (hidle : m.pass = none) :
      Step race
        (race.put i { m with pass := some ([], (Session.bootstrap m.backends).run m.memory) })
  | note {i : Nat} {m : Mounter} {xs : List Exchange} {line : LogLine}
      {next : Program (Except Fault (List Backend.Outcome) × Memory)}
      (hm : race.mounters[i]? = some m) (hpass : m.pass = some (xs, .note line next)) :
      Step race (race.put i { m with pass := some (xs, next) })
  | ask {i : Nat} {m : Mounter} {xs : List Exchange} {request : Request}
      {next : Answer → Program (Except Fault (List Backend.Outcome) × Memory)}
      {answer : Answer} {taken : List Site}
      (hm : race.mounters[i]? = some m) (hpass : m.pass = some (xs, .ask request next))
      (hreply : VaultReply race.taken request answer taken) :
      Step race (put ⟨taken, race.mounters, race.answered ++ [⟨request, answer⟩]⟩ i
        { m with pass := some (xs ++ [⟨request, answer⟩], next answer) })
  | finish {i : Nat} {m : Mounter} {xs : List Exchange}
      {result : Except Fault (List Backend.Outcome)} {memory : Memory}
      (hm : race.mounters[i]? = some m) (hpass : m.pass = some (xs, .done (result, memory))) :
      Step race
        (race.put i { m with memory, pass := none, ended := m.ended ++ [(xs, result)] })

end Race

end Connector

end VaultAccess
