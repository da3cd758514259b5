import VaultAccess.Vault.Payload

/-!
# Bodies that a vault writes

For every shape of answer the body that holds it, with all members present and null for what is
absent, and that reading the body gives the answer back.
-/
namespace VaultAccess

open Vault Decode Json

namespace Json

/-- A value that may be absent. -/
def orNull {α : Type} (write : α → Json) : Option α → Json
  | some a => write a
  | none => .null

/-- A table by key. -/
def ofTable {α : Type} (write : α → Json) (members : List (String × α)) : Json :=
  .obj (members.map fun m => (m.1, write m.2))

@[simp] theorem record_obj (name : String) (members : Members) :
    dialect.record name (.obj members) = .ok (.named members) := rfl

@[simp] theorem text_str (s : String) : dialect.text (.str s) = .ok s := rfl

@[simp] theorem flag_bool (b : Bool) : dialect.flag (.bool b) = .ok b := rfl

theorem mapM_text (texts : List String) : (texts.map Json.str).mapM dialect.text = .ok texts := by
  induction texts with
  | nil => rfl
  | cons s rest ih => simp [ih, bind, Except.bind, pure, Except.pure]

@[simp] theorem textList_ofStrings (texts : List String) :
    dialect.textList (ofStrings texts) = .ok texts := mapM_text texts

@[simp] theorem word_ofNat (name : String) (n : UInt64) :
    dialect.word name (ofNat n.toNat) = .ok n := by
  simp [dialect, ofNat]

/-- An absent value is read as absent, and one that is there as itself. -/
theorem optional_orNull {α : Type} {read : Json → Except Mismatch α} {write : α → Json}
    (hread : ∀ a, read (write a) = .ok a) (hwrite : ∀ a, dialect.isNothing (write a) = false)
    (a : Option α) : dialect.optional read (orNull write a) = .ok a := by
  cases a with
  | none => rfl
  | some a => simp [orNull, Dialect.optional, hwrite, hread, Except.map]

theorem readTable_map {α β : Type} {read : Json → Except Mismatch β} {write : α → Json}
    (f : α → β) (hread : ∀ a, read (write a) = .ok (f a)) (members : List (String × α)) :
    Dialect.readTable read (members.map fun m => (m.1, write m.2)) =
      .ok (members.map fun m => (m.1, f m.2)) := by
  induction members with
  | nil => rfl
  | cons m rest ih => simp [Dialect.readTable, hread, ih, Except.map]

theorem tableOf_ofTable {α β : Type} {read : Json → Except Mismatch β} {write : α → Json}
    (f : α → β) (hread : ∀ a, read (write a) = .ok (f a)) (members : List (String × α)) :
    dialect.tableOf read (ofTable write members) = .ok (members.map fun m => (m.1, f m.2)) :=
  readTable_map f hread members

end Json

namespace Vault

@[simp] theorem optional_text (s : Option String) :
    dialect.optional dialect.text (orNull .str s) = .ok s :=
  optional_orNull text_str (fun _ => rfl) s

@[simp] theorem optional_textList (texts : Option (List String)) :
    dialect.optional dialect.textList (orNull ofStrings texts) = .ok texts :=
  optional_orNull textList_ofStrings (fun _ => rfl) texts

@[simp] theorem optional_flag (b : Option Bool) :
    dialect.optional dialect.flag (orNull .bool b) = .ok b :=
  optional_orNull flag_bool (fun _ => rfl) b

@[simp] theorem optional_word (name : String) (n : Option UInt64) :
    dialect.optional (dialect.word name) (orNull (fun n => ofNat n.toNat) n) = .ok n :=
  optional_orNull (word_ofNat name) (fun _ => rfl) n

@[simp] theorem readTexts_ofTable (members : List (String × String)) :
    readTexts (ofTable .str members) = .ok (sortMembers members) := by
  simp [readTexts, tableOf_ofTable id text_str, Except.map]

@[simp] theorem optional_readTexts (members : Option (List (String × String))) :
    dialect.optional readTexts (orNull (ofTable .str) members) =
      .ok (members.map sortMembers) := by
  cases members with
  | none => rfl
  | some members =>
    simp only [orNull, Dialect.optional, readTexts_ofTable]
    rfl

/-! ## Listings -/

def KeyInfo.toJson (info : KeyInfo) : Json :=
  .obj [("disabled", orNull .bool info.disabled), ("metadata", orNull (ofTable .str) info.metadata),
    ("name", orNull .str info.name), ("policies", orNull ofStrings info.policies),
    ("type", orNull .str info.groupType)]

/-- The details with metadata by ascending key. -/
def KeyInfo.sorted (info : KeyInfo) : KeyInfo :=
  { info with metadata := info.metadata.map sortMembers }

theorem KeyInfo.ofJson_toJson (info : KeyInfo) : ofJson info.toJson = .ok info.sorted := by
  simp [ofJson, toJson, sorted, Dialect.ofRecord, maybe, withDefault, Record.start, Record.field,
    firstFault, List.lookup_cons, Except.map, bind, Except.bind, pure, Except.pure]

def KeyList.toJson (list : KeyList) : Json :=
  .obj [("key_info", ofTable KeyInfo.toJson list.info), ("keys", ofStrings list.keys)]

/-- The keys with their details' metadata by ascending key. -/
def KeyList.sorted (list : KeyList) : KeyList :=
  { list with info := list.info.map fun m => (m.1, m.2.sorted) }

@[simp] theorem KeyList.ofJson_toJson (list : KeyList) : ofJson list.toJson = .ok list.sorted := by
  simp [ofJson, toJson, sorted, Dialect.ofRecord, texts, withDefault, Record.start, Record.field,
    firstFault, List.lookup_cons, Except.map, bind, Except.bind, pure, Except.pure,
    tableOf_ofTable KeyInfo.sorted KeyInfo.ofJson_toJson]

def Listing.toJson (listing : Listing) : Json :=
  .obj [("data", listing.data.toJson), ("mount_type", orNull .str listing.mountType)]

/-- The listing with its details' metadata by ascending key. -/
def Listing.sorted (listing : Listing) : Listing := { listing with data := listing.data.sorted }

@[simp] theorem Listing.ofJson_toJson (listing : Listing) :
    ofJson listing.toJson = .ok listing.sorted := by
  simp [ofJson, toJson, sorted, Dialect.ofRecord, maybe, withDefault, Record.start, Record.field,
    firstFault, List.lookup_cons, Except.map, bind, Except.bind, pure, Except.pure]

/-! ## Policies -/

def PolicyData.toJson (d : PolicyData) : Json :=
  .obj [("keys", ofStrings d.keys), ("policies", ofStrings d.policies)]

theorem PolicyData.ofJson_toJson (d : PolicyData) : ofJson d.toJson = .ok d := by
  simp [ofJson, toJson, Dialect.ofRecord, texts, withDefault, Record.start, Record.field,
    firstFault, List.lookup_cons, Except.map, bind, Except.bind, pure, Except.pure]

def PolicyListing.toJson (p : PolicyListing) : Json :=
  .obj [("data", orNull PolicyData.toJson p.data), ("keys", ofStrings p.keys),
    ("mount_type", orNull .str p.mountType), ("policies", ofStrings p.policies)]

@[simp] theorem PolicyListing.ofJson_toJson (p : PolicyListing) : ofJson p.toJson = .ok p := by
  simp [ofJson, toJson, Dialect.ofRecord, texts, maybe, withDefault, Record.start, Record.field,
    firstFault, List.lookup_cons, Except.map, bind, Except.bind, pure, Except.pure,
    optional_orNull PolicyData.ofJson_toJson (fun _ => rfl)]

/-! ## Mount tables -/

def MountInfo.toJson (info : MountInfo) : Json :=
  .obj [("accessor", orNull .str info.accessor), ("description", orNull .str info.description),
    ("local", orNull .bool info.isLocal), ("options", orNull (ofTable .str) info.options),
    ("type", orNull .str info.mountType)]

/-- The mount with options by ascending key. -/
def MountInfo.sorted (info : MountInfo) : MountInfo :=
  { info with options := info.options.map sortMembers }

theorem MountInfo.ofJson_toJson (info : MountInfo) : ofJson info.toJson = .ok info.sorted := by
  simp [ofJson, toJson, sorted, Dialect.ofRecord, maybe, withDefault, Record.start, Record.field,
    firstFault, List.lookup_cons, Except.map, bind, Except.bind, pure, Except.pure]

def MountTable.toJson (table : MountTable) : Json :=
  .obj [("data", ofTable MountInfo.toJson table)]

/-- The mounts by ascending path, with their options by ascending key. -/
def MountTable.sorted (table : MountTable) : MountTable :=
  sortMembers (table.map fun m => (m.1, m.2.sorted))

@[simp] theorem MountTable.ofJson_toJson (table : MountTable) :
    ofJson table.toJson = .ok table.sorted := by
  simp [ofJson, toJson, sorted, Dialect.ofRecord, withDefault, Record.start, Record.field,
    firstFault, List.lookup_cons, Except.map, bind, Except.bind, pure, Except.pure,
    tableOf_ofTable MountInfo.sorted MountInfo.ofJson_toJson]

/-! ## Users -/

def UserData.toJson (d : UserData) : Json :=
  .obj [("policies", orNull ofStrings d.policies),
    ("token_bound_cidrs", orNull ofStrings d.boundCidrs),
    ("token_policies", orNull ofStrings d.tokenPolicies),
    ("token_ttl", orNull (fun n => ofNat n.toNat) d.tokenTtl)]

@[simp] theorem UserData.ofJson_toJson (d : UserData) : ofJson d.toJson = .ok d := by
  simp [ofJson, toJson, Dialect.ofRecord, maybe, withDefault, Record.start, Record.field,
    firstFault, List.lookup_cons, Except.map, bind, Except.bind, pure, Except.pure]

def UserAnswer.toJson (a : UserAnswer) : Json :=
  .obj [("data", a.data.toJson), ("mount_type", orNull .str a.mountType)]

@[simp] theorem UserAnswer.ofJson_toJson (a : UserAnswer) : ofJson a.toJson = .ok a := by
  simp [ofJson, toJson, Dialect.ofRecord, maybe, withDefault, Record.start, Record.field,
    firstFault, List.lookup_cons, Except.map, bind, Except.bind, pure, Except.pure]

end Vault

namespace Vault.Response

/-- What a success with a written body reads as. -/
theorem read_of_ok {α : Type} {decode : Json → Except Mismatch α} {members : Members} {a : α}
    (h : decode (.obj members) = .ok a) : read decode ⟨200, .obj members⟩ = .ok a := by
  simp [read, requireSuccess, isSuccess, h]

end Vault.Response

end VaultAccess
