import VaultAccess.Fault
import VaultAccess.Json.Decode
import VaultAccess.Json.Raw
import VaultAccess.Paging.Cursor
import VaultAccess.Text.Base64Url
import VaultAccess.Text.Edges
import VaultAccess.Text.Percent

/-!
# Written cursors

A cursor is written as base64url of compact JSON; the empty cursor as the empty text. Reading is
strict about both layers, takes blanks around the text, and reads the empty text as the start of
the caller's kind. Frames, and the list around them, may also be written as JSON lists.
-/
namespace VaultAccess.Paging

open Json

/-! ## As JSON values -/

def Frame.toJson (f : Frame) : Json :=
  .obj [("kind", .str f.kind.name), ("marker", .str f.marker)]

def Cursor.toJson (c : Cursor) : Json := .obj [("states", .arr (c.frames.map Frame.toJson))]

/-- A kind by its name. -/
def readKind {V E : Type} (d : Decode.Dialect V E) : V → Except E Kind :=
  d.oneOf Kind.names Kind.ofName?

/-- A frame. -/
def readFrame {V E : Type} (d : Decode.Dialect V E) : V → Except E Frame :=
  d.ofRecord "struct PageState" <|
    Decode.Record.start Frame.mk
      |>.field (Decode.required "kind" (readKind d))
      |>.field (Decode.withDefault "marker" "" d.text)

/-- A cursor of any size. -/
def readCursor {V E : Type} (d : Decode.Dialect V E) : V → Except E Cursor :=
  d.ofRecord "struct PageStack" <|
    Decode.Record.start Cursor.mk
      |>.field (Decode.required "states" (d.listOf (readFrame d)))

/-! ## From text

The text is read in order, and the first thing that is not as expected is reported at its place. -/

/-- Why reading stopped: a fault with its place, or a mismatch noticed with these bytes ahead. -/
inductive Stop where
  | fault (f : Json.Fault)
  | mismatch (m : Mismatch) (ahead : List UInt8)

/-- What a reader of typed parts gives. -/
abbrev Reading (α : Type) := Except Stop (α × List UInt8)

/-- A fault found by looking at the next byte. -/
def stopPeek {α : Type} (cause : Cause) (rest : List UInt8) : Except Stop α :=
  .error (.fault ⟨cause, rest.length - 1⟩)

/-- A fault found at this place. -/
def stopAt {α : Type} (cause : Cause) (rest : List UInt8) : Except Stop α :=
  .error (.fault ⟨cause, rest.length⟩)

/-- A scanner as a reader. -/
def scan {α : Type} : Except Json.Fault α → Except Stop α
  | .ok a => .ok a
  | .error f => .error (.fault f)

/-- Give a mismatch the place to which `finish` leads. -/
def settle {α : Type} (finish : List UInt8 → List UInt8) : Except Stop α → Except Stop α
  | .error (.mismatch m ahead) => .error (.fault ⟨.mismatch m, (finish ahead).length⟩)
  | r => r

/-- The bytes after the end of an object, as far as it is there. -/
def pastObject (bs : List UInt8) : List UInt8 :=
  match skipBlank bs with
  | 125 :: rest => rest
  | rest => rest

/-- The bytes after the end of a list, as far as it is there. -/
def pastList (bs : List UInt8) : List UInt8 :=
  match skipBlank bs with
  | 93 :: rest => rest
  | 44 :: rest => skipBlank rest
  | rest => rest

/-- The end of an object. -/
def endObject (bs : List UInt8) : Except Stop (List UInt8) :=
  match skipBlank bs with
  | [] => stopPeek .endInObject []
  | b :: rest =>
    if b = 125 then .ok rest
    else if b = 44 then stopPeek .trailingComma (b :: rest)
    else stopPeek .trailingCharacters (b :: rest)

/-- The end of a list. -/
def endList (bs : List UInt8) : Except Stop (List UInt8) :=
  match skipBlank bs with
  | [] => stopPeek .endInList []
  | b :: rest =>
    if b = 93 then .ok rest
    else if b = 44 then
      match skipBlank rest with
      | 93 :: rest => stopPeek .trailingComma (93 :: rest)
      | rest => stopPeek .trailingCharacters rest
    else stopPeek .trailingCharacters (b :: rest)

/-- Refuse the value ahead because something else is expected. Scalars are read first, and
may be faulty themselves. -/
def refuse {α : Type} (expected : String) (bs : List UInt8) : Except Stop α :=
  let found (f : Found) (rest : List UInt8) : Except Stop α :=
    stopAt (.mismatch (.invalidType f expected)) rest
  match bs with
  | [] => stopPeek .expectedValue []
  | b :: rest =>
    if b = 110 then
      match restOfNull rest with
      | .ok rest => found .null rest
      | .error f => .error (.fault f)
    else if b = 116 then
      match restOfTrue rest with
      | .ok rest => found (.bool true) rest
      | .error f => .error (.fault f)
    else if b = 102 then
      match restOfFalse rest with
      | .ok rest => found (.bool false) rest
      | .error f => .error (.fault f)
    else if b = 45 then
      match number false rest with
      | .ok (n, rest) => found (.num n) rest
      | .error f => .error (.fault f)
    else if isDigitByte b then
      match number true bs with
      | .ok (n, rest) => found (.num n) rest
      | .error f => .error (.fault f)
    else if b = 34 then
      match string rest with
      | .ok (s, rest) => found (.str s) rest
      | .error f => .error (.fault f)
    else if b = 91 then found .seq bs
    else if b = 123 then found .map bs
    else stopPeek .expectedValue bs

/-- A text. -/
def readText (expected : String) (bs : List UInt8) : Reading String :=
  match skipBlank bs with
  | [] => stopPeek .endInValue []
  | b :: rest => if b = 34 then scan (string rest) else refuse expected (b :: rest)

/-- A null. -/
def readNull (bs : List UInt8) : Except Stop (List UInt8) :=
  match skipBlank bs with
  | [] => stopPeek .endInValue []
  | b :: rest => if b = 110 then scan (restOfNull rest) else refuse "unit" (b :: rest)

/-- A colon after a key. -/
def readColon (bs : List UInt8) : Except Stop (List UInt8) :=
  match skipBlank bs with
  | [] => stopPeek .endInObject []
  | b :: rest => if b = 58 then .ok rest else stopPeek .expectedColon (b :: rest)

/-- The name of a kind. -/
def readKindName (bs : List UInt8) : Reading Kind :=
  match readText "variant identifier" bs with
  | .error e => .error e
  | .ok (name, rest) =>
    match Kind.ofName? name with
    | some k => .ok (k, rest)
    | none => stopAt (.mismatch (.unknownVariant name Kind.names)) rest

/-- A kind: its name, or an object that gives the name a null. -/
def readKindAhead (bs : List UInt8) : Reading Kind :=
  match skipBlank bs with
  | [] => stopPeek .endInValue []
  | b :: rest =>
    if b = 34 then readKindName (b :: rest)
    else if b = 123 then
      match readKindName rest with
      | .error e => .error e
      | .ok (kind, rest) =>
        match readColon rest with
        | .error e => .error e
        | .ok rest =>
          match readNull rest with
          | .error e => .error e
          | .ok rest =>
            match skipBlank rest with
            | [] => stopAt .endInObject []
            | c :: rest => if c = 125 then .ok (kind, rest) else stopAt .expectedValue (c :: rest)
    else stopPeek .expectedValue (b :: rest)

/-- Look for a member of an object: the bytes of its key, or nothing at the object's end. -/
def nextKey (first : Bool) (bs : List UInt8) : Except Stop (Option (List UInt8)) :=
  match skipBlank bs with
  | [] => stopPeek .endInObject []
  | b :: rest =>
    if b = 125 then .ok none
    else if first then
      if b = 34 then .ok (some rest) else stopPeek .keyNotString (b :: rest)
    else if b = 44 then
      match skipBlank rest with
      | [] => stopPeek .endInValue []
      | c :: rest =>
        if c = 34 then .ok (some rest)
        else if c = 125 then stopPeek .trailingComma (c :: rest)
        else stopPeek .keyNotString (c :: rest)
    else stopPeek .expectedObjectEnd (b :: rest)

/-- Look for an item of a list: the bytes from it on, or nothing at the list's end. -/
def nextItem (first : Bool) (bs : List UInt8) : Except Stop (Option (List UInt8)) :=
  match skipBlank bs with
  | [] => stopPeek .endInList []
  | b :: rest =>
    if b = 93 then .ok none
    else if first then .ok (some (b :: rest))
    else if b = 44 then
      match skipBlank rest with
      | [] => stopPeek .endInValue []
      | c :: rest =>
        if c = 93 then stopPeek .trailingComma (c :: rest) else .ok (some (c :: rest))
    else stopPeek .expectedListEnd (b :: rest)

/-- How a record is put together from the members of an object: `update` reads the value of
a known key. -/
structure Assembly (σ : Type) where
  start : σ
  update : String → Option (σ → List UInt8 → Reading σ)

/-- The members of an object up to its end, with at most `fuel` of them. -/
def readMembers {σ : Type} (a : Assembly σ) : Nat → Bool → σ → List UInt8 → Reading σ
  | 0, _, _, bs => stopAt .tooDeep bs
  | fuel + 1, first, state, bs =>
    match nextKey first bs with
    | .error e => .error e
    | .ok none => .ok (state, bs)
    | .ok (some rest) =>
      match string rest with
      | .error f => .error (.fault f)
      | .ok (key, rest) =>
        match a.update key with
        | some update =>
          match update state rest with
          | .error e => .error e
          | .ok (state, rest) => readMembers a fuel false state rest
        | none =>
          match readColon rest with
          | .error e => .error e
          | .ok rest =>
            match Raw.next rest with
            | .error f => .error (.fault f)
            | .ok (_, rest) => readMembers a fuel false state rest

/-- The value of a field that must not have been read before. -/
def readOnce {α σ : Type} (key : String) (before : Option α) (set : α → σ)
    (read : List UInt8 → Reading α) (bs : List UInt8) : Reading σ :=
  match before with
  | some _ => .error (.mismatch (.duplicateField key) bs)
  | none =>
    match readColon bs with
    | .error e => .error e
    | .ok rest =>
      match read rest with
      | .error e => .error e
      | .ok (a, rest) => .ok (set a, rest)

/-- A record: an object of members, or a list of fields. -/
def readRecord {α : Type} (name : String) (named listed : List UInt8 → Reading α)
    (bs : List UInt8) : Reading α :=
  match skipBlank bs with
  | [] => stopPeek .endInValue []
  | b :: rest =>
    if b = 123 then
      match settle pastObject (named rest) with
      | .error e => .error e
      | .ok (a, rest) => (endObject rest).map fun rest => (a, rest)
    else if b = 91 then
      match settle pastList (listed rest) with
      | .error e => .error e
      | .ok (a, rest) => (endList rest).map fun rest => (a, rest)
    else refuse name (b :: rest)

/-- The fields of a frame read so far. -/
structure PartialFrame where
  kind : Option Kind
  marker : Option String

/-- How a frame is put together. -/
def frameAssembly : Assembly PartialFrame where
  start := ⟨none, none⟩
  update key :=
    if key = "kind" then
      some fun p => readOnce "kind" p.kind (fun k => { p with kind := some k }) readKindAhead
    else if key = "marker" then
      some fun p =>
        readOnce "marker" p.marker (fun m => { p with marker := some m }) (readText "a string")
    else none

/-- A frame from the members of its object. -/
def readNamedFrame (bs : List UInt8) : Reading Frame :=
  match readMembers frameAssembly (bs.length + 1) true frameAssembly.start bs with
  | .error e => .error e
  | .ok (⟨none, _⟩, rest) => .error (.mismatch (.missingField "kind") rest)
  | .ok (⟨some kind, marker⟩, rest) => .ok (⟨kind, marker.getD ""⟩, rest)

/-- A frame from the items of its list. -/
def readListedFrame (bs : List UInt8) : Reading Frame :=
  match nextItem true bs with
  | .error e => .error e
  | .ok none =>
    .error (.mismatch (.invalidLength 0 (recordLength "struct PageState" 2)) (skipBlank bs))
  | .ok (some rest) =>
    match readKindAhead rest with
    | .error e => .error e
    | .ok (kind, rest) =>
      match nextItem false rest with
      | .error e => .error e
      | .ok none => .ok (⟨kind, ""⟩, rest)
      | .ok (some rest) =>
        match readText "a string" rest with
        | .error e => .error e
        | .ok (marker, rest) => .ok (⟨kind, marker⟩, rest)

/-- A frame. -/
def readFrameAhead : List UInt8 → Reading Frame :=
  readRecord "struct PageState" readNamedFrame readListedFrame

/-- The items of a list of frames up to its end, with at most `fuel` of them. -/
def readFrameItems : Nat → Bool → List UInt8 → Reading (List Frame)
  | 0, _, bs => stopAt .tooDeep bs
  | fuel + 1, first, bs =>
    match nextItem first bs with
    | .error e => .error e
    | .ok none => .ok ([], bs)
    | .ok (some rest) =>
      match readFrameAhead rest with
      | .error e => .error e
      | .ok (frame, rest) =>
        match readFrameItems fuel false rest with
        | .error e => .error e
        | .ok (frames, rest) => .ok (frame :: frames, rest)

/-- A list of frames. -/
def readFrames (bs : List UInt8) : Reading (List Frame) :=
  match skipBlank bs with
  | [] => stopPeek .endInValue []
  | b :: rest =>
    if b = 91 then
      match settle pastList (readFrameItems (rest.length + 1) true rest) with
      | .error e => .error e
      | .ok (frames, rest) => (endList rest).map fun rest => (frames, rest)
    else refuse "a sequence" (b :: rest)

/-- How a cursor is put together. -/
def cursorAssembly : Assembly (Option (List Frame)) where
  start := none
  update key :=
    if key = "states" then some fun p => readOnce "states" p some readFrames else none

/-- A cursor from the members of its object. -/
def readNamedCursor (bs : List UInt8) : Reading Cursor :=
  match readMembers cursorAssembly (bs.length + 1) true cursorAssembly.start bs with
  | .error e => .error e
  | .ok (none, rest) => .error (.mismatch (.missingField "states") rest)
  | .ok (some frames, rest) => .ok (⟨frames⟩, rest)

/-- A cursor from the items of its list. -/
def readListedCursor (bs : List UInt8) : Reading Cursor :=
  match nextItem true bs with
  | .error e => .error e
  | .ok none =>
    .error (.mismatch (.invalidLength 0 (recordLength "struct PageStack" 1)) (skipBlank bs))
  | .ok (some rest) =>
    match readFrames rest with
    | .error e => .error e
    | .ok (frames, rest) => .ok (⟨frames⟩, rest)

/-- The cursor that a JSON text writes. -/
def Cursor.ofJsonText (text : List UInt8) : Except Json.Fault Cursor :=
  match readRecord "struct PageStack" readNamedCursor readListedCursor text with
  | .error (.fault f) => .error f
  | .error (.mismatch m ahead) => failAt (.mismatch m) ahead
  | .ok (cursor, rest) =>
    match skipBlank rest with
    | [] => .ok cursor
    | rest => failPeek .trailingCharacters rest

/-! ## The written form -/

/-- The written form of a cursor. -/
def Cursor.encode (c : Cursor) : String :=
  if c.isEmpty then ""
  else
    Text.Percent.ofAscii
      (Text.Base64Url.encode (Text.Utf8.encodeChars c.toJson.compact))

/-- The cursor that a text writes; the empty text stands for the start of `seed`. -/
def Cursor.decode (text : String) (seed : Kind) : Except VaultAccess.Fault Cursor :=
  if text = "" then .ok (.start seed)
  else
    match Text.Base64Url.decode (Text.Utf8.encode (Text.trim text)) with
    | .error f => .error (.cursor ("cursor is not valid base64: " ++ f.message))
    | .ok bytes =>
      match Cursor.ofJsonText bytes with
      | .error f => .error (.cursor ("cursor payload is invalid: " ++ f.message bytes))
      | .ok cursor =>
        if cursor.isEmpty then .error (.cursor "non-empty cursor carries no page state")
        else .ok cursor

end VaultAccess.Paging
