import VaultAccess.Graph.Kind

/-!
# Cursors

A cursor is a stack of frames, one per kind being walked. The top frame, which is the last of the
list, is the one that the current call works on.
-/
namespace VaultAccess.Paging

/-- How far the walk of a kind has come. An empty marker stands for its start. -/
structure Frame where
  kind : Kind
  marker : String
  deriving DecidableEq, Repr

/-- The frame at the start of a kind. -/
def Frame.start (kind : Kind) : Frame := ⟨kind, ""⟩

/-- The marker of a frame that has left its start. -/
def Frame.marker? (f : Frame) : Option String := if f.marker = "" then none else some f.marker

/-- Frames of nested walks, the innermost last. -/
structure Cursor where
  frames : List Frame
  deriving DecidableEq, Repr

namespace Cursor

def empty : Cursor := ⟨[]⟩

/-- The cursor at the start of a kind. -/
def start (kind : Kind) : Cursor := ⟨[.start kind]⟩

/-- The frame that the current call works on. -/
def top? (c : Cursor) : Option Frame := c.frames.getLast?

def size (c : Cursor) : Nat := c.frames.length

def isEmpty (c : Cursor) : Bool := c.frames.isEmpty

/-- Put a frame on top. -/
def push (c : Cursor) (f : Frame) : Cursor := ⟨c.frames ++ [f]⟩

/-- The cursor without its top frame. -/
def pop (c : Cursor) : Cursor := ⟨c.frames.dropLast⟩

/-- The cursor whose top frame is of a kind, with a fresh frame on top if needed. -/
def enter (c : Cursor) (kind : Kind) : Cursor :=
  if c.top?.map Frame.kind = some kind then c else c.push (.start kind)

/-- Move the top frame to the next marker. Without one, or with an empty one, the kind is
exhausted and its frame goes. -/
def advance (c : Cursor) (next : Option String) : Cursor :=
  match next.filter (· ≠ "") with
  | none => c.pop
  | some marker =>
    match c.top? with
    | none => c
    | some f => c.pop.push { f with marker := marker }

@[simp] theorem top?_push (c : Cursor) (f : Frame) : (c.push f).top? = some f := by
  simp [top?, push]

@[simp] theorem pop_push (c : Cursor) (f : Frame) : (c.push f).pop = c := by
  simp [pop, push]

@[simp] theorem size_push (c : Cursor) (f : Frame) : (c.push f).size = c.size + 1 := by
  simp [size, push]

end Cursor

end VaultAccess.Paging
