import VaultAccess.Paging.Codec
import VaultAccess.Text.Decimal

/-!
# One paging step

A call decodes its cursor, fetches the page of the top frame, maps its records, and hands out the
cursor of the next call. Markers are decimal: an offset into a listing that is read in windows, or
the index of a phase.
-/
namespace VaultAccess.Paging

/-- The records of one page and the marker of the next. -/
structure Batch (ρ : Type) where
  records : List ρ
  next : Option String
  deriving DecidableEq, Repr

/-- A listing that comes in one piece. -/
def Batch.whole {ρ : Type} (records : List ρ) : Batch ρ := ⟨records, none⟩

/-- What a call hands out: items, and the cursor of the next call. -/
structure Page (α : Type) where
  items : List α
  nextCursor : String
  deriving DecidableEq, Repr

namespace Page

/-- Everything in one page. -/
def single {α : Type} (items : List α) : Page α := ⟨items, ""⟩

/-- A page with nothing in it and nothing after it. -/
def empty {α : Type} : Page α := single []

/-- Whether nothing comes after this page. -/
def isLast {α : Type} (p : Page α) : Bool := p.nextCursor == ""

end Page

/-- The cursor on which a call for `kind` works. -/
def openCursor (text : String) (kind : Kind) : Except Fault Cursor :=
  (Cursor.decode text kind).map fun c => c.enter kind

/-- The page of a batch that was fetched for the top frame of a cursor. -/
def turn {ρ α : Type} (c : Cursor) (map : ρ → α) (batch : Batch ρ) : Page α :=
  ⟨batch.records.map map, (c.advance batch.next).encode⟩

/-- One step: `fetch` gets the marker of the top frame, if it has left its start. -/
def listPage {m : Type → Type} [Monad m] [MonadExcept Fault m] {ρ α : Type} (text : String)
    (kind : Kind) (fetch : Option String → m (Batch ρ)) (map : ρ → α) : m (Page α) :=
  match openCursor text kind with
  | .error e => throw e
  | .ok c => do
    let batch ← fetch (c.top?.bind Frame.marker?)
    return turn c map batch

/-- The number that a marker writes; no marker stands for zero. -/
def index (what : String) : Option String → Except Fault Nat
  | none => .ok 0
  | some m =>
    match Text.Decimal.word? m with
    | some n => .ok n
    | none => .error (.cursor ("invalid " ++ what ++ " marker '" ++ m ++ "'"))

/-- Cut the window that starts at the marker out of a listing. A size of zero counts as one. -/
def window {ρ : Type} (all : List ρ) (marker : Option String) (size : Nat) :
    Except Fault (Batch ρ) :=
  match index "offset" marker with
  | .error e => .error e
  | .ok offset =>
    if all.length ≤ offset then .ok (.whole [])
    else
      let stop := min (offset + max size 1) all.length
      .ok ⟨(all.drop offset).take (stop - offset),
        if stop < all.length then some (Text.Decimal.write stop) else none⟩

/-- The index of the phase that a marker names. -/
def phaseIndex (marker : Option String) (phases : Nat) : Except Fault Nat :=
  match index "phase" marker with
  | .error e => .error e
  | .ok i =>
    if i < phases then .ok i
    else
      .error (.cursor ("phase " ++ Text.Decimal.write i ++ " is out of range (" ++
        Text.Decimal.write phases ++ " phases)"))

/-- The marker of the phase after `i`, unless that is the last one. -/
def nextPhase (i phases : Nat) : Option String :=
  if i + 1 < phases then some (Text.Decimal.write (i + 1)) else none

end VaultAccess.Paging
