import VaultAccess.Json.Value
import VaultAccess.Proofs.Lookup
import VaultAccess.Proofs.Text.Utf8

/-!
# Members by key

Sorted members ascend strictly. They are the last member of every key in the byte order of the keys,
and so the given members in that order where every key occurs once.
-/
namespace VaultAccess.Json

open Text

variable {α : Type} {key : String} {value : α} {members sorted : List (String × α)}

/-- Members whose keys ascend strictly. -/
def Ascending (members : List (String × α)) : Prop := members.Pairwise fun m n => m.1 < n.1

/-- Whether the key of a member comes no later in byte order. -/
def keyLe (m n : String × α) : Bool := decide (Utf8.encode m.1 ≤ Utf8.encode n.1)

/-- Members in the byte order of their keys. -/
def byKey (members : List (String × α)) : List (String × α) := members.mergeSort keyLe

theorem mem_of_mem_insertMember {m : String × α} (h : m ∈ insertMember key value members) :
    m = (key, value) ∨ m ∈ members := by
  induction members with
  | nil => exact .inl (List.mem_singleton.mp h)
  | cons n rest ih =>
    obtain ⟨k, v⟩ := n
    unfold insertMember at h
    by_cases hlt : key < k
    · rw [if_pos hlt] at h
      exact List.mem_cons.mp h
    · rw [if_neg hlt] at h
      by_cases heq : key = k
      · rw [if_pos heq] at h
        exact (List.mem_cons.mp h).imp_right (List.mem_cons_of_mem _)
      · rw [if_neg heq] at h
        rcases List.mem_cons.mp h with rfl | hrest
        · exact .inr List.mem_cons_self
        · exact (ih hrest).imp_right (List.mem_cons_of_mem _)

theorem Ascending.insertMember (h : Ascending members) (key : String) (value : α) :
    Ascending (insertMember key value members) := by
  induction members with
  | nil => exact List.pairwise_singleton _ _
  | cons n rest ih =>
    obtain ⟨k, v⟩ := n
    obtain ⟨hfirst, hrest⟩ := List.pairwise_cons.mp h
    unfold Json.insertMember
    by_cases hlt : key < k
    · rw [if_pos hlt]
      refine List.pairwise_cons.mpr ⟨fun m hm => ?_, h⟩
      rcases List.mem_cons.mp hm with rfl | hm
      · exact hlt
      · exact String.lt_trans hlt (hfirst m hm)
    · rw [if_neg hlt]
      by_cases heq : key = k
      · subst heq
        rw [if_pos rfl]
        exact List.pairwise_cons.mpr ⟨hfirst, hrest⟩
      · rw [if_neg heq]
        have hgt : k < key := Std.lt_of_le_of_ne (String.not_lt.mp hlt) (Ne.symm heq)
        refine List.pairwise_cons.mpr ⟨fun m hm => ?_, ih hrest⟩
        rcases mem_of_mem_insertMember hm with rfl | hm
        · exact hgt
        · exact hfirst m hm

theorem insertMember_perm (h : ∀ m ∈ members, m.1 ≠ key) :
    (insertMember key value members).Perm ((key, value) :: members) := by
  induction members with
  | nil => exact .refl _
  | cons n rest ih =>
    obtain ⟨k, v⟩ := n
    have hne : key ≠ k := Ne.symm (h (k, v) List.mem_cons_self)
    unfold insertMember
    by_cases hlt : key < k
    · rw [if_pos hlt]
    · rw [if_neg hlt, if_neg hne]
      have hrest := ih fun m hm => h m (List.mem_cons_of_mem _ hm)
      exact (hrest.cons (k, v)).trans (.swap _ _ _)

/-- Members put one by one into ascending members ascend again. -/
theorem ascending_foldl (h : Ascending sorted) (members : List (String × α)) :
    Ascending (members.foldl (fun sorted m => insertMember m.1 m.2 sorted) sorted) := by
  induction members generalizing sorted with
  | nil => exact h
  | cons m rest ih => exact ih (h.insertMember m.1 m.2)

theorem foldl_perm (members : List (String × α)) (h : ((members ++ sorted).map (·.1)).Nodup) :
    (members.foldl (fun sorted m => insertMember m.1 m.2 sorted) sorted).Perm
      (members ++ sorted) := by
  induction members generalizing sorted with
  | nil => exact .refl _
  | cons m rest ih =>
    obtain ⟨hnew, hrest⟩ := List.nodup_cons.mp h
    have hfresh : ∀ n ∈ sorted, n.1 ≠ m.1 := fun n hn heq =>
      hnew (List.mem_map.mpr ⟨n, List.mem_append_right rest hn, heq⟩)
    have hinsert : (insertMember m.1 m.2 sorted).Perm (m :: sorted) := insertMember_perm hfresh
    have hmiddle : (rest ++ insertMember m.1 m.2 sorted).Perm (m :: (rest ++ sorted)) :=
      (hinsert.append_left rest).trans List.perm_middle
    have hnodup : ((rest ++ insertMember m.1 m.2 sorted).map (·.1)).Nodup :=
      (hmiddle.map (·.1)).nodup_iff.mpr h
    exact (ih hnodup).trans hmiddle

theorem ascending_sortMembers (members : List (String × α)) : Ascending (sortMembers members) :=
  ascending_foldl .nil members

theorem sortMembers_perm (h : (members.map (·.1)).Nodup) : (sortMembers members).Perm members := by
  have hperm : (sortMembers members).Perm (members ++ []) :=
    foldl_perm members (by rwa [List.append_nil])
  rwa [List.append_nil] at hperm

/-- Where every key occurs once, members with one key are the same. -/
theorem eq_of_mem_of_key_eq {m n : String × α} (h : (members.map (·.1)).Nodup)
    (hm : m ∈ members) (hn : n ∈ members) (hkey : m.1 = n.1) : m = n := by
  have hvalue := lookup_eq_some_of_mem h hm
  rw [hkey, lookup_eq_some_of_mem h hn] at hvalue
  exact Prod.ext hkey (Option.some.inj hvalue).symm

/-- Where every key occurs once, sorting is putting the bytes of the keys in order. -/
theorem sortMembers_eq_byKey (h : (members.map (·.1)).Nodup) :
    sortMembers members = byKey members := by
  have hperm : (sortMembers members).Perm (byKey members) :=
    (sortMembers_perm h).trans (List.mergeSort_perm members keyLe).symm
  have hsorted : (sortMembers members).Pairwise fun m n => keyLe m n := by
    refine (ascending_sortMembers members).imp fun hlt => ?_
    exact decide_eq_true (List.le_of_lt (Utf8.encode_lt hlt))
  have hbyKey : (byKey members).Pairwise fun m n => keyLe m n := by
    refine List.pairwise_mergeSort (fun m n o hmn hno => ?_) (fun m n => ?_) members
    · exact decide_eq_true (List.le_trans (of_decide_eq_true hmn) (of_decide_eq_true hno))
    · simpa [keyLe] using List.le_total (Utf8.encode m.1) (Utf8.encode n.1)
  refine hperm.eq_of_pairwise (fun m n hm hn hmn hnm => ?_) hsorted hbyKey
  have hbytes := List.le_antisymm (of_decide_eq_true hmn) (of_decide_eq_true hnm)
  exact eq_of_mem_of_key_eq h ((sortMembers_perm h).mem_iff.mp hm) (List.mem_mergeSort.mp hn)
    (Utf8.encode_injective hbytes)

/-- Where keys ascend every key occurs once. -/
theorem Ascending.nodup (h : Ascending members) : (members.map (·.1)).Nodup := by
  refine List.pairwise_map.mpr (h.imp fun hlt heq => ?_)
  exact String.lt_irrefl _ (heq ▸ hlt)

/-! ## Keys that come again -/

/-- The members none of whose keys comes again. -/
def latest : List (String × α) → List (String × α)
  | [] => []
  | m :: rest => if m.1 ∈ rest.map (·.1) then latest rest else m :: latest rest

theorem mem_keys_latest :
    key ∈ (latest members).map (·.1) ↔ key ∈ members.map (·.1) := by
  induction members with
  | nil => exact Iff.rfl
  | cons m rest ih =>
    unfold latest
    split
    · next hagain =>
      rw [ih, List.map_cons, List.mem_cons]
      exact ⟨.inr, fun h => h.elim (fun heq => heq ▸ hagain) id⟩
    · rw [List.map_cons, List.map_cons, List.mem_cons, List.mem_cons, ih]

theorem nodup_latest (members : List (String × α)) : ((latest members).map (·.1)).Nodup := by
  induction members with
  | nil => exact .nil
  | cons m rest ih =>
    unfold latest
    split
    · exact ih
    · next hlast =>
      exact List.nodup_cons.mpr ⟨fun hmem => hlast (mem_keys_latest.mp hmem), ih⟩

theorem latest_eq_self (h : (members.map (·.1)).Nodup) : latest members = members := by
  induction members with
  | nil => rfl
  | cons m rest ih =>
    obtain ⟨hnew, hrest⟩ := List.nodup_cons.mp h
    rw [latest, if_neg hnew, ih hrest]

theorem lookup_insertMember (k key : String) (value : α) (members : List (String × α)) :
    (insertMember key value members).lookup k =
      if k = key then some value else members.lookup k := by
  induction members with
  | nil =>
    by_cases hk : k = key
    · simp [insertMember, hk]
    · simp [insertMember, hk, lookup_cons_of_ne hk]
  | cons m rest ih =>
    obtain ⟨other, v⟩ := m
    unfold insertMember
    by_cases hk : k = key
    · subst hk
      split
      · simp
      split
      · simp
      · next hother => rw [lookup_cons_of_ne hother, ih, if_pos rfl, if_pos rfl]
    · rw [if_neg hk]
      split
      · exact lookup_cons_of_ne hk _ _
      split
      · next hother => rw [lookup_cons_of_ne hk, lookup_cons_of_ne (hother ▸ hk)]
      · rw [List.lookup_cons, List.lookup_cons, ih, if_neg hk]

/-- Of several members with one key the last is found, and where there is none what was there. -/
theorem lookup_foldl (k : String) (members sorted : List (String × α)) :
    (members.foldl (fun sorted m => insertMember m.1 m.2 sorted) sorted).lookup k =
      ((latest members).lookup k).or (sorted.lookup k) := by
  induction members generalizing sorted with
  | nil => rfl
  | cons m rest ih =>
    obtain ⟨key, value⟩ := m
    rw [List.foldl_cons, ih, lookup_insertMember, latest]
    by_cases hk : k = key
    · subst hk
      by_cases hagain : k ∈ rest.map (·.1)
      · obtain ⟨n, hn, rfl⟩ := List.mem_map.mp (mem_keys_latest.mpr hagain)
        have hfound : (latest rest).lookup n.1 = some n.2 :=
          lookup_eq_some_of_mem (nodup_latest rest) hn
        rw [if_pos hagain, hfound, Option.some_or, Option.some_or]
      · have hnone : (latest rest).lookup k = none := List.lookup_eq_none_iff.mpr fun n hn =>
          bne_iff_ne.mpr fun hkey =>
            hagain (mem_keys_latest.mp (List.mem_map.mpr ⟨n, hn, hkey.symm⟩))
        rw [if_neg hagain, hnone, if_pos rfl, Option.none_or, List.lookup_cons_self,
          Option.some_or]
    · rw [if_neg hk]
      split
      · rfl
      · rw [lookup_cons_of_ne hk]

/-- Ascending members are known by what is found under each key. -/
theorem Ascending.ext {other : List (String × α)} (h : Ascending members) (hother : Ascending other)
    (hlookup : ∀ k, members.lookup k = other.lookup k) : members = other := by
  have hmem {list : List (String × α)} (hlist : Ascending list) (m : String × α) :
      m ∈ list ↔ list.lookup m.1 = some m.2 := by
    refine ⟨lookup_eq_some_of_mem hlist.nodup, fun hfound => ?_⟩
    obtain ⟨before, after, rfl, -⟩ := List.lookup_eq_some_iff.mp hfound
    exact List.mem_append_right before List.mem_cons_self
  have hnodup {list : List (String × α)} (hlist : Ascending list) : list.Nodup := by
    refine hlist.imp fun hlt => ?_
    rintro rfl
    exact String.lt_irrefl _ hlt
  have hperm : members.Perm other :=
    (List.perm_ext_iff_of_nodup (hnodup h) (hnodup hother)).mpr fun m => by
      rw [hmem h, hmem hother, hlookup]
  exact hperm.eq_of_pairwise (fun m n _ _ hmn hnm =>
    absurd (String.lt_trans hmn hnm) (String.lt_irrefl _)) h hother

/-- Sorting is putting the last member of every key in the byte order of the keys. -/
theorem sortMembers_eq_byKey_latest (members : List (String × α)) :
    sortMembers members = byKey (latest members) := by
  rw [← sortMembers_eq_byKey (nodup_latest members)]
  refine (ascending_sortMembers _).ext (ascending_sortMembers _) fun k => ?_
  have hlatest := latest_eq_self (nodup_latest members)
  rw [sortMembers, lookup_foldl, sortMembers, lookup_foldl, hlatest]

end VaultAccess.Json
