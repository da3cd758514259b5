import VaultAccess.Proofs.Decode.Fields
import VaultAccess.Vault.Payload

/-!
# The details of groups and entities

A listing of groups or entities tells details for some of its keys. Every key becomes a record, in
order. The details of a key go to its first record, and to no record of another key.
-/
namespace VaultAccess.Vault

open Decode Json

variable {α : Type}

/-! ## Details -/

/-- What a value says of a detail: nothing if it is null, and else what it is read as. -/
def Tells (read : Json → Except Mismatch α) (v : Json) (detail : Option α) : Prop :=
  v = .null ∧ detail = none ∨ v ≠ .null ∧ ∃ a, read v = .ok a ∧ detail = some a

theorem tells_of_optional {read : Json → Except Mismatch α} {v : Json} {detail : Option α}
    (h : dialect.optional read v = .ok detail) : Tells read v detail := by
  by_cases hnull : v = .null
  · subst hnull
    cases h
    exact .inl ⟨rfl, rfl⟩
  · have hthere : dialect.isNothing v = false := by
      cases v with
      | null => exact absurd rfl hnull
      | _ => rfl
    rw [Dialect.optional, hthere] at h
    obtain ⟨a, hread, rfl⟩ := map_eq_ok_iff.mp h
    exact .inr ⟨hnull, a, hread, rfl⟩

/-- The details that a value gives: each is what is said under its key or at its place, and nothing
is said where there is no value. -/
def KeyInfo.SaidBy (v : Json) (info : KeyInfo) : Prop :=
  ∃ parts, dialect.record "struct KeyInfo" v = .ok parts ∧
    parts.Says "name" 0 (Tells dialect.text) none info.name ∧
    parts.Says "type" 1 (Tells dialect.text) none info.groupType ∧
    parts.Says "policies" 2 (Tells dialect.textList) none info.policies ∧
    parts.Says "disabled" 3 (Tells dialect.flag) none info.disabled ∧
    parts.Says "metadata" 4 (Tells readTexts) none info.metadata

theorem KeyInfo.saidBy_of_ofJson {v : Json} {info : KeyInfo} (h : KeyInfo.ofJson v = .ok info) :
    info.SaidBy v := by
  obtain ⟨parts, hparts, hall⟩ := Dialect.exists_makes h
  have h0 := Record.takes_start (V := Json) (E := Mismatch) KeyInfo.mk
  have h1 := h0.field (maybe "name" dialect.text)
  have h2 := h1.field (maybe "type" dialect.text)
  have h3 := h2.field (maybe "policies" dialect.textList)
  have h4 := h3.field (maybe "disabled" dialect.flag)
  obtain ⟨_, metadata, hfour, rfl, hmetadata⟩ := hall.exists_says h4 rfl (.inl rfl)
  obtain ⟨_, disabled, hthree, rfl, hdisabled⟩ := hfour.exists_says h3 rfl (.inl rfl)
  obtain ⟨_, policies, htwo, rfl, hpolicies⟩ := hthree.exists_says h2 rfl (.inl rfl)
  obtain ⟨_, groupType, hone, rfl, hgroupType⟩ := htwo.exists_says h1 rfl (.inl rfl)
  obtain ⟨_, name, hnone, rfl, hname⟩ := hone.exists_says h0 rfl (.inl rfl)
  cases Record.eq_of_makes_start hnone
  exact ⟨parts, hparts, hname.imp fun _ _ => tells_of_optional,
    hgroupType.imp fun _ _ => tells_of_optional, hpolicies.imp fun _ _ => tells_of_optional,
    hdisabled.imp fun _ _ => tells_of_optional, hmetadata.imp fun _ _ => tells_of_optional⟩

/-! ## Records -/

/-- That a record carries the details of an entry and no others. What the entry does not tell is
empty, and so is all where there is no entry. -/
structure IdentityRecord.Carries (r : IdentityRecord) (entry : Option KeyInfo) : Prop where
  name : r.name = entry.bind KeyInfo.name
  groupType : r.groupType = entry.bind KeyInfo.groupType
  policies : r.policies = (entry.bind KeyInfo.policies).getD []
  disabled : r.disabled = (entry.bind KeyInfo.disabled).getD false
  metadata : r.metadata = (entry.bind KeyInfo.metadata).getD []

theorem IdentityRecord.carries_ofInfo (id : String) (entry : Option KeyInfo) :
    (ofInfo id (entry.getD .absent)).Carries entry := by
  cases entry <;> exact ⟨rfl, rfl, rfl, rfl, rfl⟩

/-- Without a key's details there are none for it, and those of other keys stay. -/
theorem lookup_without (key id : String) (info : List (String × KeyInfo)) :
    (info.filter fun entry => entry.1 ≠ id).lookup key =
      if key = id then none else info.lookup key := by
  have hsame : (fun entry : String × KeyInfo => decide (entry.1 ≠ id)) = (·.1 != id) := by
    funext entry
    by_cases hentry : entry.1 = id <;> simp [hentry]
  rw [hsame]
  by_cases hkey : key = id
  · rw [if_pos hkey, hkey, lookup_filter_self]
  · rw [if_neg hkey, lookup_filter_of_ne hkey]

/-- The entry whose details go to the record at a place: that of the key which stands there, unless
the key has stood before. -/
def KeyList.entryAt (list : KeyList) (i : Nat) (key : String) : Option KeyInfo :=
  if key ∈ list.keys.take i then none else list.info.lookup key

/-- The record at each place is that of its key with the entry for the place. The details that are
left at a key are those of the keys that have not stood before, so the induction is for all
details. -/
theorem KeyList.getElem?_records (list : KeyList) (i : Nat) :
    list.records[i]? = list.keys[i]?.map fun key =>
      IdentityRecord.ofInfo key ((list.entryAt i key).getD .absent) := by
  obtain ⟨keys, info⟩ := list
  simp only [records, entryAt]
  induction keys generalizing info i with
  | nil => rfl
  | cons id keys ih =>
    cases i with
    | zero => simp [IdentityRecord.ofKeys]
    | succ i =>
      rw [IdentityRecord.ofKeys, List.getElem?_cons_succ, ih, List.getElem?_cons_succ,
        List.take_succ_cons]
      congr 1
      funext key
      rw [lookup_without]
      by_cases hkey : key = id <;> simp [hkey]

theorem KeyList.exists_record {list : KeyList} {i : Nat} {key : String}
    (hkey : list.keys[i]? = some key) :
    ∃ r, list.records[i]? = some r ∧ r.id = key ∧ r.Carries (list.entryAt i key) := by
  refine ⟨_, ?_, rfl, IdentityRecord.carries_ofInfo key (list.entryAt i key)⟩
  rw [list.getElem?_records, hkey, Option.map_some]

theorem KeyList.ids_records (list : KeyList) :
    list.records.map IdentityRecord.id = list.keys := by
  refine List.ext_getElem? fun i => ?_
  rw [List.getElem?_map, getElem?_records, Option.map_map]
  exact Option.map_id'

/-- Details stay with their keys. The records of a listing are one for each key, in order. The first
record of a key carries the details of the key's entry, and any later one carries none. So the
record at a place is the same in every listing with these keys that has the same entry for the key
there, whatever it has for others. What an entry tells is what the body says in its fields, and a
field that is absent or null tells nothing. -/
theorem details_stay_with_keys (list : KeyList) :
    list.records.map IdentityRecord.id = list.keys ∧
    (∀ (i : Nat) (key : String), list.keys[i]? = some key →
      ∃ r, list.records[i]? = some r ∧ r.id = key ∧
        (key ∉ list.keys.take i → r.Carries (list.info.lookup key)) ∧
        (key ∈ list.keys.take i → r.Carries none)) ∧
    (∀ (other : KeyList) (i : Nat) (key : String), other.keys = list.keys →
      list.keys[i]? = some key → other.info.lookup key = list.info.lookup key →
      other.records[i]? = list.records[i]?) ∧
    ∀ (v : Json) (info : KeyInfo), KeyInfo.ofJson v = .ok info → info.SaidBy v := by
  refine ⟨list.ids_records, fun i key hkey => ?_, fun other i key hkeys hkey hentry => ?_,
    fun v info => KeyInfo.saidBy_of_ofJson⟩
  · obtain ⟨r, hr, hid, hcarries⟩ := KeyList.exists_record hkey
    refine ⟨r, hr, hid, fun hfirst => ?_, fun hlater => ?_⟩
    · rwa [KeyList.entryAt, if_neg hfirst] at hcarries
    · rwa [KeyList.entryAt, if_pos hlater] at hcarries
  · rw [other.getElem?_records, list.getElem?_records, hkeys, hkey, Option.map_some,
      Option.map_some, KeyList.entryAt, KeyList.entryAt, hkeys, hentry]

/-- A listing that repeats a key and tells of one that it does not list. -/
def repeated : KeyList where
  keys := ["g-2", "g-1", "g-2"]
  info := [("g-1", ⟨some "admins", some "internal", some ["ops"], none, none⟩),
    ("g-2", ⟨none, none, none, some true, some [("team", "core")]⟩),
    ("g-3", ⟨some "guests", none, none, none, none⟩)]

/-- The repeated key has its details once, the other key has its own, and the key that is not listed
does not matter. -/
theorem details_stay_with_keys_of_repeated :
    (repeated.keys[0]? = some "g-2" ∧ "g-2" ∉ repeated.keys.take 0 ∧
      ∃ r, repeated.records[0]? = some r ∧ r.disabled = true ∧ r.metadata = [("team", "core")]) ∧
    (repeated.keys[2]? = some "g-2" ∧ "g-2" ∈ repeated.keys.take 2 ∧
      ∃ r, repeated.records[2]? = some r ∧ r.disabled = false ∧ r.metadata = []) ∧
    (repeated.keys[1]? = some "g-1" ∧
      (KeyList.records ⟨repeated.keys, repeated.info.take 1⟩)[1]? = repeated.records[1]?) ∧
    (KeyInfo.ofJson (.obj [("name", .null), ("type", .str "internal")]) =
        .ok ⟨none, some "internal", none, none, none⟩ ∧
      KeyInfo.SaidBy (.obj [("name", .null), ("type", .str "internal")])
        ⟨none, some "internal", none, none, none⟩) := by
  obtain ⟨-, hrecords, hothers, hread⟩ := details_stay_with_keys repeated
  have hjson : KeyInfo.ofJson (.obj [("name", .null), ("type", .str "internal")]) =
      .ok ⟨none, some "internal", none, none, none⟩ := rfl
  obtain ⟨first, hfirst, -, hdetails, -⟩ := hrecords 0 "g-2" rfl
  obtain ⟨last, hlast, -, -, hnothing⟩ := hrecords 2 "g-2" rfl
  have hnew : "g-2" ∉ repeated.keys.take 0 := List.not_mem_nil
  have hseen : "g-2" ∈ repeated.keys.take 2 := by decide
  refine ⟨⟨rfl, hnew, first, hfirst, ?_, ?_⟩, ⟨rfl, hseen, last, hlast, ?_, ?_⟩,
    ⟨rfl, hothers _ 1 "g-1" rfl rfl rfl⟩, hjson, hread _ _ hjson⟩
  · exact (hdetails hnew).disabled
  · exact (hdetails hnew).metadata
  · exact (hnothing hseen).disabled
  · exact (hnothing hseen).metadata

end VaultAccess.Vault
