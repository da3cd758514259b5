/-!
# Looking up by key

What mapping the values and dropping a key do to the value of a key; and a result known by the
value that it has.
-/
namespace VaultAccess

variable {κ α β : Type} [BEq κ] [LawfulBEq κ]

theorem lookup_cons_of_ne {k key : κ} (h : k ≠ key) (value : α) (members : List (κ × α)) :
    List.lookup k ((key, value) :: members) = members.lookup k := by
  rw [List.lookup_cons, beq_false_of_ne h]

theorem lookup_map_value (f : κ → α → β) (k : κ) (members : List (κ × α)) :
    List.lookup k (members.map fun m => (m.1, f m.1 m.2)) = (members.lookup k).map (f k) := by
  induction members with
  | nil => rfl
  | cons m rest ih =>
    obtain ⟨key, value⟩ := m
    rw [List.map_cons]
    by_cases h : k = key
    · subst h
      rw [List.lookup_cons_self, List.lookup_cons_self, Option.map_some]
    · rw [lookup_cons_of_ne h, lookup_cons_of_ne h, ih]

theorem lookup_filter_of_ne {k key : κ} (h : k ≠ key) (members : List (κ × α)) :
    List.lookup k (members.filter (·.1 != key)) = members.lookup k := by
  induction members with
  | nil => rfl
  | cons m rest ih =>
    obtain ⟨other, value⟩ := m
    by_cases hkey : other = key
    · rw [List.filter_cons_of_neg (by simp [hkey]), ih, lookup_cons_of_ne (hkey ▸ h)]
    · rw [List.filter_cons_of_pos (by simp [hkey])]
      by_cases hk : k = other
      · subst hk
        rw [List.lookup_cons_self, List.lookup_cons_self]
      · rw [lookup_cons_of_ne hk, lookup_cons_of_ne hk, ih]

theorem lookup_filter_self (key : κ) (members : List (κ × α)) :
    List.lookup key (members.filter (·.1 != key)) = none := by
  refine List.lookup_eq_none_iff.mpr fun m hm => ?_
  have hne : m.1 ≠ key := bne_iff_ne.mp (List.mem_filter.mp hm).2
  exact bne_iff_ne.mpr hne.symm

theorem lookup_eq_some_of_mem {k : κ} {value : α} {members : List (κ × α)}
    (hnodup : (members.map (·.1)).Nodup) (hmem : (k, value) ∈ members) :
    members.lookup k = some value := by
  induction members with
  | nil => cases hmem
  | cons m rest ih =>
    rw [List.map_cons, List.nodup_cons] at hnodup
    rcases List.mem_cons.mp hmem with rfl | hmem
    · exact List.lookup_cons_self
    · have hne : k ≠ m.1 := by
        rintro rfl
        exact hnodup.1 (List.mem_map.mpr ⟨_, hmem, rfl⟩)
      rw [show m = (m.1, m.2) from rfl, lookup_cons_of_ne hne, ih hnodup.2 hmem]

/-- Where every key occurs once, the order of the members does not matter. -/
theorem lookup_eq_of_perm {members arranged : List (κ × α)}
    (hnodup : (members.map (·.1)).Nodup) (hperm : arranged.Perm members) (k : κ) :
    arranged.lookup k = members.lookup k := by
  have hmem : ∀ {list : List (κ × α)} {value : α}, list.lookup k = some value →
      (k, value) ∈ list := by
    intro list value h
    obtain ⟨before, after, rfl, -⟩ := List.lookup_eq_some_iff.mp h
    simp
  have harranged : (arranged.map (·.1)).Nodup := (hperm.map (·.1)).nodup_iff.mpr hnodup
  ext value
  constructor
  · intro h
    exact lookup_eq_some_of_mem hnodup (hperm.mem_iff.mp (hmem h))
  · intro h
    exact lookup_eq_some_of_mem harranged (hperm.mem_iff.mpr (hmem h))

theorem ok_of_bind {ε : Type} {r : Except ε α} {f : α → Except ε β} {b : β}
    (h : r >>= f = .ok b) : ∃ a, r = .ok a ∧ f a = .ok b := by
  cases r with
  | error e => cases h
  | ok a => exact ⟨a, rfl, h⟩

theorem map_eq_ok_iff {ε : Type} {f : α → β} {r : Except ε α} {b : β} :
    r.map f = .ok b ↔ ∃ a, r = .ok a ∧ f a = b := by
  cases r <;> simp [Except.map]

theorem ok_of_toOption {ε : Type} {r : Except ε α} {a : α} (h : r.toOption = some a) :
    r = .ok a := by
  cases r with
  | error e => cases h
  | ok b => exact congrArg _ (Option.some.inj h)

end VaultAccess
