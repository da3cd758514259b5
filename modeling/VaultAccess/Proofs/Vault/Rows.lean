import VaultAccess.Proofs.Json.Members
import VaultAccess.Proofs.Vault.Identities
import VaultAccess.Proofs.Vault.Reading

/-!
# What a vault lists, entry by entry

The record of every user, mount, group and entity is stated from the vault's own entry for it, in
the order in which the vault lists it. What is made of an answer of the vault is these records.
-/
namespace VaultAccess.Vault

open Json

/-! ## Users -/

/-- The policies that an answer tells, under the newer name if they stand there. -/
def UserAnswer.toldPolicies (a : UserAnswer) : List String :=
  match a.data.tokenPolicies, a.data.policies with
  | some policies, _ => policies
  | none, some policies => policies
  | none, none => []

theorem UserAnswer.policyList_eq (a : UserAnswer) : a.data.policyList = a.toldPolicies := by
  unfold UserData.policyList toldPolicies
  cases a.data.tokenPolicies <;> cases a.data.policies <;> rfl

/-- The record of a user from what the vault has. -/
def UserRecord.ofEntry (u : String × UserAnswer) : UserRecord where
  name := u.1
  mountType := u.2.mountType
  policies := u.2.toldPolicies
  boundCidrs := u.2.data.boundCidrs.getD []
  tokenTtl := u.2.data.tokenTtl.getD 0

theorem UserAnswer.record_eq (u : String × UserAnswer) : u.2.record u.1 = .ofEntry u := by
  rw [UserAnswer.record, UserRecord.ofEntry, UserAnswer.policyList_eq]

/-! ## Policies -/

/-- The names that a policy listing tells: the first of its lists that is not empty. -/
def PolicyListing.told (p : PolicyListing) : List String :=
  let lists := [p.data.elim [] (·.policies), p.data.elim [] (·.keys), p.policies, p.keys]
  (lists.find? (· ≠ [])).getD []

theorem PolicyListing.names_eq (p : PolicyListing) : p.names = p.told := by
  obtain ⟨keys, policies, data, mountType⟩ := p
  cases data with
  | none => cases policies <;> cases keys <;> simp [names, told]
  | some d =>
    obtain ⟨inner, outer⟩ := d
    cases inner <;> cases outer <;> cases policies <;> cases keys <;> simp [names, told]

/-! ## Mounts -/

/-- The record of an entry of a mount table; options that come again count as they come last. -/
def MountRecord.ofEntry (m : String × MountInfo) : MountRecord where
  path := m.1
  mountType := m.2.mountType
  description := m.2.description
  accessor := m.2.accessor
  options := m.2.options.elim [] fun options => byKey (latest options)

/-- The records of a mount table, in the byte order of their paths. -/
def MountTable.byPath (table : MountTable) : List MountRecord := (byKey table).map .ofEntry

/-- Sorting by key does not look at values. -/
theorem byKey_map {α β : Type} (f : α → β) (members : List (String × α)) :
    byKey (members.map fun m => (m.1, f m.2)) = (byKey members).map fun m => (m.1, f m.2) := by
  have hsame : ∀ m ∈ members, ∀ n ∈ members, keyLe m n = keyLe (m.1, f m.2) (n.1, f n.2) :=
    fun _ _ _ _ => rfl
  exact (List.map_mergeSort hsame).symm

theorem MountTable.records_sorted {table : MountTable} (hnodup : (table.map (·.1)).Nodup) :
    table.sorted.records = table.byPath := by
  have hkeys : ((table.map fun m => (m.1, m.2.sorted)).map (·.1)).Nodup := by
    rwa [List.map_map]
  rw [sorted, sortMembers_eq_byKey hkeys, byKey_map, records, List.map_map, byPath]
  refine List.map_congr_left fun m _ => ?_
  cases hoptions : m.2.options with
  | none => simp [MountRecord.ofEntry, MountInfo.sorted, hoptions]
  | some options =>
    simp [MountRecord.ofEntry, MountInfo.sorted, hoptions, sortMembers_eq_byKey_latest]

/-! ## Groups and entities -/

/-- The record of a key from what the vault tells of it; metadata that come again count as they come
last. -/
def IdentityRecord.ofEntry (key : String) (entry : Option KeyInfo) : IdentityRecord where
  id := key
  name := entry.bind KeyInfo.name
  groupType := entry.bind KeyInfo.groupType
  policies := (entry.bind KeyInfo.policies).getD []
  disabled := (entry.bind KeyInfo.disabled).getD false
  metadata := (entry.bind KeyInfo.metadata).elim [] fun metadata => byKey (latest metadata)

/-- The records of a listing, key by key in its order. -/
def KeyList.byPlace (list : KeyList) : List IdentityRecord :=
  list.keys.mapIdx fun i key => .ofEntry key (list.entryAt i key)

theorem KeyList.records_sorted (list : KeyList) : list.sorted.records = list.byPlace := by
  refine List.ext_getElem? fun i => ?_
  rw [getElem?_records, byPlace, List.getElem?_mapIdx]
  refine congrArg (Option.map · list.keys[i]?) (funext fun key => ?_)
  have hentry : list.sorted.entryAt i key = (list.entryAt i key).map KeyInfo.sorted := by
    unfold entryAt sorted
    split
    · rfl
    · exact lookup_map_value (fun _ info => KeyInfo.sorted info) key list.info
  rw [hentry]
  cases list.entryAt i key with
  | none => rfl
  | some info =>
    cases hmetadata : info.metadata <;>
      simp [IdentityRecord.ofInfo, IdentityRecord.ofEntry, KeyInfo.sorted, hmetadata,
        sortMembers_eq_byKey_latest]

theorem KeyList.ids_byPlace (list : KeyList) : list.byPlace.map IdentityRecord.id = list.keys := by
  rw [← records_sorted]
  exact list.sorted.ids_records

end VaultAccess.Vault
