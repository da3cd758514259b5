import VaultAccess.Json.Decode
import VaultAccess.Proofs.Json.Members

/-!
# Objects in any order

A record written as an object can be read from its members in whatever order they stand: as they
were put in, ascending as in an object that keeps its keys sorted, or any other.
-/
namespace VaultAccess

namespace Decode

variable {V E α : Type} {d : Dialect V E} {r : Record V E α} {a : α}

/-- Whether a member by itself is free of faults: its field can be read, or it can be skipped. -/
def Fits (d : Dialect V E) (r : Record V E α) (m : String × V) : Prop :=
  match r.check m.1 with
  | none => d.skip m.2 = .ok ()
  | some read => read m.2 = .ok ()

/-- Where every key occurs once and none was seen before, faults are those of single members. -/
theorem firstFault_eq_ok_iff {seen : List String} {members : List (String × V)}
    (hkeys : (members.map (·.1)).Nodup) (hseen : ∀ m ∈ members, m.1 ∉ seen) :
    firstFault d r seen members = .ok () ↔ ∀ m ∈ members, Fits d r m := by
  induction members generalizing seen with
  | nil => simp [firstFault]
  | cons m rest ih =>
    obtain ⟨key, v⟩ := m
    obtain ⟨hnew, hrest⟩ := List.nodup_cons.mp hkeys
    have hkey : key ∉ seen := hseen (key, v) List.mem_cons_self
    have hlater : ∀ m ∈ rest, m.1 ∉ seen := fun m hm => hseen m (List.mem_cons_of_mem _ hm)
    have hlaterKey : ∀ m ∈ rest, m.1 ∉ key :: seen := by
      intro m hm hmem
      rcases List.mem_cons.mp hmem with heq | hmem
      · exact hnew (List.mem_map.mpr ⟨m, hm, heq⟩)
      · exact hlater m hm hmem
    rw [List.forall_mem_cons, firstFault, Fits]
    cases r.check key with
    | none =>
      cases d.skip v with
      | error e => simp
      | ok u => simp [ih hrest hlater]
    | some read =>
      cases hread : read v with
      | error e => simp [hkey, hread]
      | ok u => simp [hkey, hread, ih hrest hlaterKey]

/-- A record that was read from members is read from them in any order. -/
theorem Dialect.ofRecord_of_perm {name : String} {v w : V} {members arranged : List (String × V)}
    (hv : d.record name v = .ok (.named members)) (hw : d.record name w = .ok (.named arranged))
    (hperm : arranged.Perm members) (hkeys : (members.map (·.1)).Nodup)
    (h : d.ofRecord name r v = .ok a) : d.ofRecord name r w = .ok a := by
  have harranged : (arranged.map (·.1)).Nodup := (hperm.map (·.1)).nodup_iff.mpr hkeys
  have hlook : (fun key => arranged.lookup key) = fun key => members.lookup key :=
    funext (lookup_eq_of_perm hkeys hperm)
  simp only [ofRecord, hv] at h
  simp only [ofRecord, hw]
  cases hfault : firstFault d r [] members with
  | error e => simp [hfault] at h
  | ok u =>
    have hfits : ∀ m ∈ members, Fits d r m :=
      (firstFault_eq_ok_iff hkeys (by simp)).mp hfault
    have hnone : firstFault d r [] arranged = .ok () :=
      (firstFault_eq_ok_iff harranged (by simp)).mpr fun m hm => hfits m (hperm.mem_iff.mp hm)
    rw [hnone, hlook]
    simpa only [hfault] using h

end Decode

namespace Json

open Decode

variable {α : Type} {f : Json → Json} {r : Record Json Mismatch α} {a : α} {members : Members}

/-- A change of the order in which objects, at every depth, list their members. -/
structure Arranges (f : Json → Json) : Prop where
  null : f .null = .null
  bool (b : Bool) : f (.bool b) = .bool b
  num (n : Number) : f (.num n) = .num n
  str (s : String) : f (.str s) = .str s
  arr (items : List Json) : f (.arr items) = .arr (items.map f)
  obj {members : Members} (hkeys : (members.map (·.1)).Nodup) :
    ∃ arranged, f (.obj members) = .obj arranged ∧
      arranged.Perm (members.map fun m => (m.1, f m.2))

theorem arranges_id : Arranges id where
  null := rfl
  bool _ := rfl
  num _ := rfl
  str _ := rfl
  arr items := by simp
  obj {members} _ := ⟨members, rfl, by simp⟩

/-- A record is read from an object however its members are arranged. -/
theorem Arranges.ofRecord (hf : Arranges f) {name : String} (hkeys : (members.map (·.1)).Nodup)
    (h : dialect.ofRecord name r (.obj (members.map fun m => (m.1, f m.2))) = .ok a) :
    dialect.ofRecord name r (f (.obj members)) = .ok a := by
  obtain ⟨arranged, hobj, hperm⟩ := hf.obj hkeys
  rw [hobj]
  refine Dialect.ofRecord_of_perm rfl rfl hperm ?_ h
  rwa [List.map_map]

/-! ## Ascending keys, at every depth -/

mutual

/-- A value whose objects list their members by ascending key. -/
def sorted : Json → Json
  | .null => .null
  | .bool b => .bool b
  | .num n => .num n
  | .str s => .str s
  | .arr items => .arr (sortedItems items)
  | .obj members => .obj (sortMembers (sortedMembers members))

/-- The items of a list, each with its objects sorted. -/
def sortedItems : List Json → List Json
  | [] => []
  | v :: rest => sorted v :: sortedItems rest

/-- The members of an object in place, each with the objects in its value sorted. -/
def sortedMembers : Members → Members
  | [] => []
  | (key, v) :: rest => (key, sorted v) :: sortedMembers rest

end

theorem sortedItems_eq_map (items : List Json) : sortedItems items = items.map sorted := by
  induction items with
  | nil => rfl
  | cons v rest ih => rw [sortedItems, ih, List.map_cons]

theorem sortedMembers_eq_map (members : Members) :
    sortedMembers members = members.map fun m => (m.1, sorted m.2) := by
  induction members with
  | nil => rfl
  | cons m rest ih =>
    obtain ⟨key, v⟩ := m
    rw [sortedMembers, ih, List.map_cons]

theorem arranges_sorted : Arranges sorted where
  null := by rw [sorted]
  bool b := by rw [sorted]
  num n := by rw [sorted]
  str s := by rw [sorted]
  arr items := by rw [sorted, sortedItems_eq_map]
  obj {members} hkeys := by
    refine ⟨sortMembers (sortedMembers members), by rw [sorted], ?_⟩
    rw [← sortedMembers_eq_map]
    refine sortMembers_perm ?_
    rwa [sortedMembers_eq_map, List.map_map]

/-- Ascending members come back from any order when they are sorted. -/
theorem sortMembers_of_perm {members arranged : List (String × α)} (h : Ascending members)
    (hperm : arranged.Perm members) : sortMembers arranged = members := by
  have harranged : (arranged.map (·.1)).Nodup := (hperm.map (·.1)).nodup_iff.mpr h.nodup
  refine ((sortMembers_perm harranged).trans hperm).eq_of_pairwise (fun m n _ _ hmn hnm => ?_)
    (ascending_sortMembers arranged) h
  exact absurd (String.lt_trans hmn hnm) (String.lt_irrefl _)

end Json

end VaultAccess
