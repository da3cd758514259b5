/-!
# Reading records

A dialect says how one notation spells texts, flags, words, lists, tables, choices and records.
What a record consists of is said once, for every dialect: its fields in order, and what holds
for a field that is absent. A record may be written as named members or as a list of its fields.
-/
namespace VaultAccess.Decode

/-- The parts of a written record. -/
inductive Parts (V : Type) where
  | named (members : List (String × V))
  | listed (items : List V)

/-- How a notation with values `V` and faults `E` spells the basic shapes. -/
structure Dialect (V E : Type) where
  text : V → Except E String
  flag : V → Except E Bool
  /-- A word, of which the type's name is given. -/
  word : String → V → Except E UInt64
  /-- Whether the value stands for nothing. -/
  isNothing : V → Bool
  list : V → Except E (List V)
  table : V → Except E (List (String × V))
  /-- The name of a choice, and whether what is written beside the name may stand there. -/
  choice : V → Except E (String × Except E Unit)
  /-- The parts of the record with this name. -/
  record : String → V → Except E (Parts V)
  missing : String → E
  duplicate : String → E
  /-- A name that is none of the given ones. -/
  unknown : String → List String → E
  /-- A list form with too few items: how many it has, and the record and number of its fields. -/
  short : Nat → String → Nat → E
  /-- A list form with too many items. -/
  long : Nat → Except E Unit
  /-- What holds of the value under a name that is no field. -/
  skip : V → Except E Unit := fun _ => .ok ()

/-- A field of a record. -/
structure Field (V E α : Type) where
  key : String
  read : V → Except E α
  /-- The value where named members lack the field. -/
  ifMissing : Option α
  /-- The value where a list form ends before the field. -/
  ifShort : Option α

/-- A field that must be there. -/
def required {V E α : Type} (key : String) (read : V → Except E α) : Field V E α :=
  ⟨key, read, none, none⟩

/-- A field with a value of its own where it is absent. -/
def withDefault {V E α : Type} (key : String) (fallback : α) (read : V → Except E α) :
    Field V E α :=
  ⟨key, read, some fallback, some fallback⟩

/-- The fields of a record, read in order. -/
structure Record (V E α : Type) where
  keys : List String
  /-- Whether the value of a key can be read; `none` for a key that is no field. -/
  check : String → Option (V → Except E Unit)
  named : (String → E) → (String → Option V) → Except E α
  listed : (Nat → E) → List V → Except E (α × List V)

/-- The record without fields. -/
def Record.start {V E α : Type} (a : α) : Record V E α where
  keys := []
  check _ := none
  named _ _ := .ok a
  listed _ items := .ok (a, items)

/-- The record with one more field. -/
def Record.field {V E α β : Type} (r : Record V E (α → β)) (f : Field V E α) : Record V E β where
  keys := r.keys ++ [f.key]
  check key := if key = f.key then some fun v => (f.read v).map fun _ => () else r.check key
  named missing look := do
    let g ← r.named missing look
    match look f.key with
    | some v => return g (← f.read v)
    | none =>
      match f.ifMissing with
      | some a => return g a
      | none => .error (missing f.key)
  listed short items := do
    let (g, rest) ← r.listed short items
    match rest with
    | v :: rest => return (g (← f.read v), rest)
    | [] =>
      match f.ifShort with
      | some a => return (g a, [])
      | none => .error (short r.keys.length)

variable {V E α : Type}

/-- The first fault among named members: one that cannot be read or skipped, or a field named
again. -/
def firstFault (d : Dialect V E) (r : Record V E α) (seen : List String) :
    List (String × V) → Except E Unit
  | [] => .ok ()
  | (key, v) :: rest =>
    match r.check key with
    | none =>
      match d.skip v with
      | .error e => .error e
      | .ok () => firstFault d r seen rest
    | some read =>
      if key ∈ seen then .error (d.duplicate key)
      else
        match read v with
        | .error e => .error e
        | .ok () => firstFault d r (key :: seen) rest

namespace Dialect

/-- A record by its name and fields. -/
def ofRecord (d : Dialect V E) (name : String) (r : Record V E α) (v : V) : Except E α :=
  match d.record name v with
  | .error e => .error e
  | .ok (.named members) =>
    match firstFault d r [] members with
    | .error e => .error e
    | .ok () => r.named d.missing (members.lookup ·)
  | .ok (.listed items) =>
    match r.listed (fun n => d.short n name r.keys.length) items with
    | .error e => .error e
    | .ok (a, []) => .ok a
    | .ok (a, _ :: _) => (d.long items.length).map fun () => a

/-- A value that may stand for nothing. -/
def optional (d : Dialect V E) (read : V → Except E α) (v : V) : Except E (Option α) :=
  if d.isNothing v then .ok none else (read v).map some

/-- A list of values. -/
def listOf (d : Dialect V E) (read : V → Except E α) (v : V) : Except E (List α) :=
  match d.list v with
  | .error e => .error e
  | .ok items => items.mapM read

/-- The values of named members, in order. -/
def readTable (read : V → Except E α) : List (String × V) → Except E (List (String × α))
  | [] => .ok []
  | (key, v) :: rest =>
    match read v with
    | .error e => .error e
    | .ok a => (readTable read rest).map ((key, a) :: ·)

/-- A table of values, with its keys as they are written. -/
def tableOf (d : Dialect V E) (read : V → Except E α) (v : V) :
    Except E (List (String × α)) :=
  match d.table v with
  | .error e => .error e
  | .ok members => readTable read members

/-- A field that is nothing where named members lack it. -/
def optionalField (d : Dialect V E) (key : String) (read : V → Except E α) :
    Field V E (Option α) :=
  ⟨key, d.optional read, some none, none⟩

/-- A field with several texts, none where it is absent. -/
def textList (d : Dialect V E) : V → Except E (List String) := d.listOf d.text

/-- One of finitely many values, by name. -/
def oneOf (d : Dialect V E) (names : List String) (ofName? : String → Option α) (v : V) :
    Except E α :=
  match d.choice v with
  | .error e => .error e
  | .ok (name, beside) =>
    match ofName? name with
    | none => .error (d.unknown name names)
    | some a => beside.map fun () => a

end Dialect

end VaultAccess.Decode
