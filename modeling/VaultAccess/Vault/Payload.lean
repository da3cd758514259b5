import VaultAccess.Graph.Document
import VaultAccess.Vault.Exchange
import VaultAccess.Vault.Record

/-!
# Bodies of answers

The shapes in which the vault answers, and the records they hold. Everything may be absent.
-/
namespace VaultAccess.Vault

open Decode Json

/-- A field that may be absent or null. -/
def maybe {α : Type} (key : String) (read : Json → Except Mismatch α) :
    Field Json Mismatch (Option α) :=
  withDefault key none (dialect.optional read)

/-- A field with texts, none where it is absent. -/
def texts (key : String) : Field Json Mismatch (List String) :=
  withDefault key [] dialect.textList

/-- A table of texts by ascending key. -/
def readTexts (v : Json) : Except Mismatch (List (String × String)) :=
  (dialect.tableOf dialect.text v).map sortMembers

/-! ## Listings -/

/-- What a listing tells about one key. -/
structure KeyInfo where
  name : Option String
  groupType : Option String
  policies : Option (List String)
  disabled : Option Bool
  metadata : Option (List (String × String))
  deriving DecidableEq, Repr

def KeyInfo.absent : KeyInfo := ⟨none, none, none, none, none⟩

def KeyInfo.ofJson : Json → Except Mismatch KeyInfo :=
  dialect.ofRecord "struct KeyInfo" <|
    Record.start KeyInfo.mk
      |>.field (maybe "name" dialect.text)
      |>.field (maybe "type" dialect.text)
      |>.field (maybe "policies" dialect.textList)
      |>.field (maybe "disabled" dialect.flag)
      |>.field (maybe "metadata" readTexts)

/-- Keys in the order of the server, with details for some. -/
structure KeyList where
  keys : List String
  info : List (String × KeyInfo)
  deriving DecidableEq, Repr

def KeyList.ofJson : Json → Except Mismatch KeyList :=
  dialect.ofRecord "struct KeyList" <|
    Record.start KeyList.mk
      |>.field (texts "keys")
      |>.field (withDefault "key_info" [] (dialect.tableOf KeyInfo.ofJson))

/-- The answer to a listing. -/
structure Listing where
  data : KeyList
  mountType : Option String
  deriving DecidableEq, Repr

def Listing.empty : Listing := ⟨⟨[], []⟩, none⟩

def Listing.ofJson : Json → Except Mismatch Listing :=
  dialect.ofRecord "struct ListResponse" <|
    Record.start Listing.mk
      |>.field (withDefault "data" ⟨[], []⟩ KeyList.ofJson)
      |>.field (maybe "mount_type" dialect.text)

/-- The record of a key and its details. -/
def IdentityRecord.ofInfo (id : String) (info : KeyInfo) : IdentityRecord where
  id := id
  name := info.name
  groupType := info.groupType
  policies := info.policies.getD []
  disabled := info.disabled.getD false
  metadata := info.metadata.getD []

/-- One record per key, in order. The details of a key go to its first record. -/
def IdentityRecord.ofKeys : List String → List (String × KeyInfo) → List IdentityRecord
  | [], _ => []
  | id :: ids, info =>
    IdentityRecord.ofInfo id ((info.lookup id).getD .absent) ::
      IdentityRecord.ofKeys ids (info.filter fun entry => entry.1 ≠ id)

/-- The records of a key list. -/
def KeyList.records (list : KeyList) : List IdentityRecord :=
  IdentityRecord.ofKeys list.keys list.info

/-! ## Policies -/

structure PolicyData where
  keys : List String
  policies : List String
  deriving DecidableEq, Repr

def PolicyData.ofJson : Json → Except Mismatch PolicyData :=
  dialect.ofRecord "struct PolicyListData" <|
    Record.start PolicyData.mk
      |>.field (texts "keys")
      |>.field (texts "policies")

/-- The policy listing. Servers fill one or more of its four lists. -/
structure PolicyListing where
  keys : List String
  policies : List String
  data : Option PolicyData
  mountType : Option String
  deriving DecidableEq, Repr

def PolicyListing.ofJson : Json → Except Mismatch PolicyListing :=
  dialect.ofRecord "struct PolicyListResponse" <|
    Record.start PolicyListing.mk
      |>.field (texts "keys")
      |>.field (texts "policies")
      |>.field (maybe "data" PolicyData.ofJson)
      |>.field (maybe "mount_type" dialect.text)

/-- The names: the first of the lists that is not empty, those under `data` first. -/
def PolicyListing.names (p : PolicyListing) : List String :=
  let inner := match p.data with
    | some d => if d.policies ≠ [] then d.policies else d.keys
    | none => []
  if inner ≠ [] then inner else if p.policies ≠ [] then p.policies else p.keys

/-! ## Mount tables -/

structure MountInfo where
  mountType : Option String
  description : Option String
  accessor : Option String
  options : Option (List (String × String))
  isLocal : Option Bool
  deriving DecidableEq, Repr

def MountInfo.ofJson : Json → Except Mismatch MountInfo :=
  dialect.ofRecord "struct MountInfo" <|
    Record.start MountInfo.mk
      |>.field (maybe "type" dialect.text)
      |>.field (maybe "description" dialect.text)
      |>.field (maybe "accessor" dialect.text)
      |>.field (maybe "options" readTexts)
      |>.field (maybe "local" dialect.flag)

/-- A mount table, by ascending path. -/
abbrev MountTable := List (String × MountInfo)

def MountTable.ofJson : Json → Except Mismatch MountTable :=
  dialect.ofRecord "struct MountTableResponse" <|
    Record.start (fun (data : MountTable) => data)
      |>.field (withDefault "data" [] fun v =>
        (dialect.tableOf MountInfo.ofJson v).map sortMembers)

/-- The records of a mount table, by ascending path. -/
def MountTable.records (table : MountTable) : List MountRecord :=
  table.map fun (path, info) =>
    ⟨path, info.mountType, info.description, info.accessor, info.options.getD []⟩

/-! ## Users -/

structure UserData where
  tokenPolicies : Option (List String)
  /-- The older name of the same list. -/
  policies : Option (List String)
  boundCidrs : Option (List String)
  tokenTtl : Option UInt64
  deriving DecidableEq, Repr

def UserData.absent : UserData := ⟨none, none, none, none⟩

def UserData.ofJson : Json → Except Mismatch UserData :=
  dialect.ofRecord "struct UserData" <|
    Record.start UserData.mk
      |>.field (maybe "token_policies" dialect.textList)
      |>.field (maybe "policies" dialect.textList)
      |>.field (maybe "token_bound_cidrs" dialect.textList)
      |>.field (maybe "token_ttl" (dialect.word "u64"))

/-- The user's policies under whichever name they are given. -/
def UserData.policyList (d : UserData) : List String :=
  (d.tokenPolicies.orElse fun _ => d.policies).getD []

/-- The answer about one user. -/
structure UserAnswer where
  data : UserData
  mountType : Option String
  deriving DecidableEq, Repr

def UserAnswer.ofJson : Json → Except Mismatch UserAnswer :=
  dialect.ofRecord "struct UserResponse" <|
    Record.start UserAnswer.mk
      |>.field (withDefault "data" .absent UserData.ofJson)
      |>.field (maybe "mount_type" dialect.text)

/-- The record of a user. -/
def UserAnswer.record (name : String) (a : UserAnswer) : UserRecord where
  name := name
  mountType := a.mountType
  policies := a.data.policyList
  boundCidrs := a.data.boundCidrs.getD []
  tokenTtl := a.data.tokenTtl.getD 0

end VaultAccess.Vault
