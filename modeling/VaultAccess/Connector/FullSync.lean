import VaultAccess.Connector.Basic

/-!
# The full sync

One pass over all kinds: every resource, what it offers and who holds it. The first failure ends
the pass without a report.
-/
namespace VaultAccess.Connector

open Vault Paging

/-- Everything one pass saw. Counts ascend by the name of their kind. -/
structure Report where
  counts : List (String × Nat)
  resources : List Resource
  entitlements : List Entitlement
  grants : List Grant
  deriving Repr

namespace Report

def empty : Report := ⟨[], [], [], []⟩

def toJson (r : Report) : Json :=
  .obj [("counts", .obj (r.counts.map fun c => (c.1, Json.ofNat c.2))),
    ("resources", .arr (r.resources.map Resource.toJson)),
    ("entitlements", .arr (r.entitlements.map Entitlement.toJson)),
    ("grants", .arr (r.grants.map Grant.toJson))]

end Report

/-- The fault of a walk that does not come forward. -/
def stalled : Fault := .cursor "cursor did not advance between pages"

/-- More pages than markers can tell apart. -/
def maxPages : Nat := Nat.pow 2 64 + 2

/-- The items of all pages from a cursor on, in at most `fuel` pages. -/
def drainFrom {α : Type} (page : String → Session (Page α)) : Nat → String → Session (List α)
  | 0, _ => throw stalled
  | fuel + 1, cursor => do
    let p ← page cursor
    if p.nextCursor = "" then return p.items
    if p.nextCursor = cursor then throw stalled
    let rest ← drainFrom page fuel p.nextCursor
    return p.items ++ rest

/-- The items of all pages. -/
def drain {α : Type} (page : String → Session (Page α)) : Session (List α) :=
  drainFrom page maxPages ""

/-- What the resources offer and who holds it, in order. -/
def holdings (c : Connector) (kind : Kind) :
    List Resource → Session (List Entitlement × List Grant)
  | [] => return ([], [])
  | r :: rest => do
    let offered ← drain fun _ => c.entitlements kind r
    let held ← drain fun cursor => c.grants kind r cursor
    let (entitlements, grants) ← holdings c kind rest
    return (offered ++ entitlements, held ++ grants)

/-- Add what a kind holds to a report. -/
def syncKind (c : Connector) (kind : Kind) (report : Report) : Session Report := do
  let resources ← drain fun cursor => c.list kind none cursor
  Session.ofTask (Action.note .debug
    ("Listed " ++ toString resources.length ++ " " ++ kind.name ++ " resource(s)"))
  let (entitlements, grants) ← holdings c kind resources
  return ⟨Json.insertMember kind.name resources.length report.counts,
    report.resources ++ resources, report.entitlements ++ entitlements, report.grants ++ grants⟩

/-- Add what the kinds hold to a report. -/
def syncKinds (c : Connector) : List Kind → Report → Session Report
  | [], report => return report
  | kind :: rest, report => do
    let report ← c.syncKind kind report
    syncKinds c rest report

/-- Mount the backends, then walk every kind. -/
def fullSync (c : Connector) : Session Report := do
  let _ ← c.bootstrap
  let report ← c.syncKinds Kind.all .empty
  Session.ofTask (Action.note .info "Sync pass complete")
  return report

end VaultAccess.Connector
