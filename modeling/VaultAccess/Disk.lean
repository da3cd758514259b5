import VaultAccess.Text.Fields

/-!
# Files and directories

What the program can see of a disk: files below the directory it works in, and files at absolute
paths. A path is followed name by name; only the last name may lead to a file.
-/
namespace VaultAccess

/-- What a route leads to. -/
inductive Disk.Entry where
  | file (content : List UInt8)
  | directory
  deriving DecidableEq, Repr

/-- Files and directories by their routes. An absolute route begins with `/`, which is no name. -/
structure Disk where
  entries : List (List String × Disk.Entry)
  deriving DecidableEq, Repr

namespace Disk

/-- Whether a route leads to a directory: the start of all routes, one with something in it, or an
empty one. -/
def isDirectory (d : Disk) (route : List String) : Bool :=
  route == [] || route == ["/"] ||
    d.entries.any fun e =>
      (e.1.take route.length == route && route.length < e.1.length) || e == (route, .directory)

/-- The route after one more name. Nothing is below a file. -/
def walk (d : Disk) (route : List String) (name : String) : Option (List String) :=
  if !d.isDirectory route then none
  else if name = "" ∨ name = "." then some route
  else if name = ".." then if route = [] ∨ route = ["/"] then none else some route.dropLast
  else some (route ++ [name])

/-- The route of a path. -/
def route? (d : Disk) (path : String) : Option (List String) :=
  match path.toList with
  | [] => none
  | '/' :: rest => ((Text.fields '/' rest).map String.ofList).foldlM d.walk ["/"]
  | cs => ((Text.fields '/' cs).map String.ofList).foldlM d.walk []

/-- What a path leads to. -/
def entry? (d : Disk) (path : String) : Option Entry :=
  match d.route? path with
  | none => none
  | some route => if d.isDirectory route then some .directory else d.entries.lookup route

/-- The disk with a file written at a path, unless there is no place for it. -/
def write? (d : Disk) (path : String) (content : List UInt8) : Option Disk :=
  match d.route? path with
  | none => none
  | some route =>
    if d.isDirectory route then none
    else some ⟨d.entries.filter (·.1 != route) ++ [(route, .file content)]⟩

/-- The extension of the last name of a path: what follows its last point, if the point is not the
first character. -/
def extension? (path : String) : Option String :=
  let names := ((Text.fields '/' path.toList).filter fun n => n ≠ [] && n ≠ ['.'])
  match names.getLast? with
  | none => none
  | some name =>
    let after := (name.reverse.takeWhile (· != '.')).reverse
    let before := name.take (name.length - after.length - 1)
    if name = ['.', '.'] ∨ after.length = name.length ∨ before = [] then none
    else some (String.ofList after)

end Disk

end VaultAccess
