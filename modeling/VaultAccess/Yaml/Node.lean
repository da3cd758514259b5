import VaultAccess.Yaml.Token

/-!
# Nodes of YAML

A document is one node: a scalar, a sequence, or a mapping. An alias stands for the node that has
its anchor; inside that node it has no meaning.
-/
namespace VaultAccess.Yaml

/-- A node; its tag is written out. -/
inductive Node where
  | scalar (text : String) (style : Style) (tag : Option String)
  | sequence (items : List Node)
  | mapping (pairs : List (Node × Node))
  /-- An alias inside the node that it stands for. -/
  | cycle
  deriving Repr, Inhabited

namespace Node

/-- The node where nothing is written. -/
def empty : Node := .scalar "" .plain none

end Node

/-- How far tokens have been read. -/
structure Reading where
  tokens : List Token
  anchors : List (String × Node)
  handles : List (String × String)

/-- Reading that may fail. -/
abbrev Reader := StateT Reading Option

namespace Reader

/-- The token ahead. -/
def peek : Reader (Option Token) := return (← get).tokens.head?

/-- Pass the token ahead. -/
def pass : Reader Unit := modify fun r => { r with tokens := r.tokens.drop 1 }

/-- Whether the token ahead is one of the given; the end of the text counts as none. -/
def sees (ts : List Token) : Reader Bool := return (← peek).any ts.contains

/-- The meaning of a tag. -/
def tagMeaning (handle suffix : String) : Reader String := do
  if handle = "" then return suffix
  match (← get).handles.lookup handle with
  | some meaning => return meaning ++ suffix
  | none =>
    if handle = "!" then return "!" ++ suffix
    else if handle = "!!" then return "tag:yaml.org,2002:" ++ suffix
    else failure

/-- The anchor ahead, if there is one. -/
def anchorAhead : Reader (Option String) := do
  match ← peek with
  | some (.anchor name) => pass; return some name
  | _ => return none

/-- The tag ahead, if there is one. -/
def tagAhead : Reader (Option String) := do
  match ← peek with
  | some (.tag handle suffix) => pass; some <$> tagMeaning handle suffix
  | _ => return none

/-- Anchor and tag ahead, in either order. -/
def properties : Reader (Option String × Option String) := do
  match ← anchorAhead with
  | some a => return (some a, ← tagAhead)
  | none =>
    let tag ← tagAhead
    return (← anchorAhead, tag)

/-- Let an anchor lead to a node. -/
def anchorTo (name : String) (n : Node) : Reader Unit :=
  modify fun r => { r with anchors := (name, n) :: r.anchors }

/-- The node that an alias stands for. -/
def aliasMeaning (name : String) : Reader Node := do
  match (← get).anchors.lookup name with
  | some n => return n
  | none => failure

mutual

/-- The node ahead. Inside brackets there are no blocks; after a key a sequence may begin in the
key's column. -/
def node (fuel : Nat) (isBlock afterKey : Bool) : Reader Node :=
  match fuel with
  | 0 => failure
  | fuel + 1 => do
    if let some (.alias name) ← peek then
      pass
      return ← aliasMeaning name
    let (anchor, tag) ← properties
    if let some a := anchor then anchorTo a .cycle
    let n ← match ← peek with
      | some (.scalar text style) => do pass; pure (.scalar text style tag)
      | some .flowSequence => do pass; .sequence <$> flowItems fuel true
      | some .flowMapping => do pass; .mapping <$> flowPairs fuel true
      | some .entry =>
        if afterKey then .sequence <$> keyItems fuel
        else if anchor.isSome || tag.isSome then pure (.scalar "" .plain tag) else failure
      | some .blockSequence =>
        if isBlock then do pass; .sequence <$> blockItems fuel
        else if anchor.isSome || tag.isSome then pure (.scalar "" .plain tag) else failure
      | some .blockMapping =>
        if isBlock then do pass; .mapping <$> blockPairs fuel
        else if anchor.isSome || tag.isSome then pure (.scalar "" .plain tag) else failure
      | _ => if anchor.isSome || tag.isSome then pure (.scalar "" .plain tag) else failure
    if let some a := anchor then anchorTo a n
    return n

/-- The items of a block up to its end. -/
def blockItems (fuel : Nat) : Reader (List Node) :=
  match fuel with
  | 0 => failure
  | fuel + 1 => do
    match ← peek with
    | some .blockEnd => pass; return []
    | some .entry =>
      pass
      let n ← if ← sees [.entry, .blockEnd] then pure .empty else node fuel true false
      return n :: (← blockItems fuel)
    | _ => failure

/-- The items of a sequence in the column of its key. -/
def keyItems (fuel : Nat) : Reader (List Node) :=
  match fuel with
  | 0 => failure
  | fuel + 1 => do
    if ← sees [.entry] then
      pass
      let n ← if ← sees [.entry, .key, .value, .blockEnd] then pure .empty else node fuel true false
      return n :: (← keyItems fuel)
    else return []

/-- The pairs of a block up to its end. -/
def blockPairs (fuel : Nat) : Reader (List (Node × Node)) :=
  match fuel with
  | 0 => failure
  | fuel + 1 => do
    let part : Reader Node := do
      if ← sees [.key, .value, .blockEnd] then pure .empty else node fuel true true
    match ← peek with
    | some .blockEnd => pass; return []
    | some .key =>
      pass
      let k ← part
      let v ← if ← sees [.value] then do pass; part else pure .empty
      return (k, v) :: (← blockPairs fuel)
    | _ => failure

/-- The items between brackets up to the closing one. -/
def flowItems (fuel : Nat) (isFirst : Bool) : Reader (List Node) :=
  match fuel with
  | 0 => failure
  | fuel + 1 => do
    if ← sees [.flowSequenceEnd] then
      pass
      return []
    if !isFirst then
      if ← sees [.comma] then pass else failure
    if ← sees [.flowSequenceEnd] then
      pass
      return []
    if ← sees [.key] then
      pass
      let k ← if ← sees [.value, .comma, .flowSequenceEnd] then do pass; pure Node.empty
        else node fuel false false
      let v ← if ← sees [.value] then do
          pass
          if ← sees [.comma, .flowSequenceEnd] then pure Node.empty else node fuel false false
        else pure .empty
      return .mapping [(k, v)] :: (← flowItems fuel false)
    let n ← node fuel false false
    return n :: (← flowItems fuel false)

/-- The pairs between braces up to the closing one. -/
def flowPairs (fuel : Nat) (isFirst : Bool) : Reader (List (Node × Node)) :=
  match fuel with
  | 0 => failure
  | fuel + 1 => do
    if ← sees [.flowMappingEnd] then
      pass
      return []
    if !isFirst then
      if ← sees [.comma] then pass else failure
    if ← sees [.flowMappingEnd] then
      pass
      return []
    if ← sees [.key] then
      pass
      let k ← if ← sees [.value, .comma, .flowMappingEnd] then pure Node.empty
        else node fuel false false
      let v ← if ← sees [.value] then do
          pass
          if ← sees [.comma, .flowMappingEnd] then pure Node.empty else node fuel false false
        else pure .empty
      return (k, v) :: (← flowPairs fuel false)
    let k ← node fuel false false
    return (k, .empty) :: (← flowPairs fuel false)

end

/-- The directives ahead: at most one version, which is known, and every handle once. -/
def directives (fuel : Nat) (hasVersion : Bool) : Reader Unit :=
  match fuel with
  | 0 => failure
  | fuel + 1 => do
    match ← peek with
    | some (.version isKnown) =>
      if hasVersion || !isKnown then failure
      pass
      directives fuel true
    | some (.handle name meaning) =>
      if ((← get).handles.lookup name).isSome then failure
      pass
      modify fun r => { r with handles := (name, meaning) :: r.handles }
      directives fuel hasVersion
    | _ => return ()

/-- The document ahead; there has to be one. -/
def document : Reader Node := do
  let fuel := 2 * (← get).tokens.length + 2
  match ← peek with
  | some (.version _) | some (.handle _ _) | some .documentStart =>
    directives fuel false
    if !(← sees [.documentStart]) then failure
    pass
    match ← peek with
    | none | some (.version _) | some (.handle _ _) | some .documentStart | some .documentEnd =>
      return .empty
    | _ => node fuel true false
  | _ => node fuel true false

end Reader

/-- The only document of a text; a text without one has the empty node. -/
def Node.ofText? (text : String) : Option Node :=
  match tokens? text with
  | none => none
  | some [] => some .empty
  | some ts =>
    match Reader.document.run ⟨ts, [], []⟩ with
    | none => none
    | some (n, r) => if r.tokens.all (· == .documentEnd) then some n else none

end VaultAccess.Yaml
