import VaultAccess.Decode.Record
import VaultAccess.Proofs.Lookup

/-!
# What the fields of a record say

A record that was read was made of its parts: each field is what its value is read as, whether the
value stands under a key or at a place, and falls back where there is no value.
-/
namespace VaultAccess.Decode

variable {V E α β : Type}

/-- The value of a field of a record, by its key among members or by its place among items. -/
def Parts.at? : Parts V → String → Nat → Option V
  | .named members, key, _ => members.lookup key
  | .listed items, _, index => items[index]?

/-- What a field is: what its value says, or the fallback where the record has no value for it. -/
def Parts.Says (parts : Parts V) (key : String) (index : Nat) (Said : V → α → Prop)
    (fallback a : α) : Prop :=
  match parts.at? key index with
  | some v => Said v a
  | none => a = fallback

theorem Parts.Says.imp {parts : Parts V} {key : String} {index : Nat} {Said Said' : V → α → Prop}
    {fallback a : α} (h : parts.Says key index Said fallback a)
    (himp : ∀ v a, Said v a → Said' v a) : parts.Says key index Said' fallback a := by
  unfold Says at h ⊢
  split at h
  · exact himp _ _ h
  · exact h

namespace Record

/-- What the fields of a record make of its parts. -/
def Makes (r : Record V E α) (parts : Parts V) (a : α) : Prop :=
  match parts with
  | .named members => ∃ missing, r.named missing (members.lookup ·) = .ok a
  | .listed items => ∃ short rest, r.listed short items = .ok (a, rest)

/-- A list form is read by its first items, this many. -/
def Takes (r : Record V E α) (n : Nat) : Prop :=
  ∀ short items a rest, r.listed short items = .ok (a, rest) → rest = items.drop n

theorem takes_start (a : α) : (start a : Record V E α).Takes 0 := by
  intro short items b rest h
  cases h
  rfl

variable {r : Record V E (α → β)} {f : Field V E α} {parts : Parts V} {n : Nat} {b : β}

theorem exists_of_named {missing : String → E} {look : String → Option V}
    (h : (r.field f).named missing look = .ok b) :
    ∃ g a, r.named missing look = .ok g ∧ b = g a ∧
      match look f.key with
      | some v => f.read v = .ok a
      | none => f.ifMissing = some a := by
  unfold field at h
  obtain ⟨g, hg, h⟩ := ok_of_bind h
  cases hlook : look f.key with
  | some v =>
    rw [hlook] at h
    obtain ⟨a, hread, h⟩ := ok_of_bind h
    cases h
    exact ⟨g, a, hg, rfl, hread⟩
  | none =>
    rw [hlook] at h
    dsimp only at h
    split at h
    · next a hmissing =>
      cases h
      exact ⟨g, a, hg, rfl, hmissing⟩
    · cases h

theorem exists_of_listed {short : Nat → E} {items rest : List V}
    (h : (r.field f).listed short items = .ok (b, rest)) :
    ∃ g a ahead, r.listed short items = .ok (g, ahead) ∧ b = g a ∧ rest = ahead.drop 1 ∧
      match ahead.head? with
      | some v => f.read v = .ok a
      | none => f.ifShort = some a := by
  unfold field at h
  obtain ⟨⟨g, ahead⟩, hg, h⟩ := ok_of_bind h
  cases ahead with
  | cons v tail =>
    obtain ⟨a, hread, h⟩ := ok_of_bind h
    cases h
    exact ⟨g, a, _, hg, rfl, rfl, hread⟩
  | nil =>
    dsimp only at h
    split at h
    · next a hshort =>
      cases h
      exact ⟨g, a, [], hg, rfl, rfl, hshort⟩
    · cases h

theorem Takes.field (hr : r.Takes n) (f : Field V E α) : (r.field f).Takes (n + 1) := by
  intro short items b rest h
  obtain ⟨g, a, ahead, hg, -, rfl, -⟩ := exists_of_listed h
  rw [hr _ _ _ _ hg, List.drop_drop]

/-- The last field of a record is read from its value, or falls back. -/
theorem Makes.exists_says (h : (r.field f).Makes parts b) (hr : r.Takes n) {fallback : α}
    (hmissing : f.ifMissing = some fallback)
    (hshort : f.ifShort = some fallback ∨ f.ifShort = none) :
    ∃ g a, r.Makes parts g ∧ b = g a ∧
      parts.Says f.key n (fun v a => f.read v = .ok a) fallback a := by
  cases parts with
  | named members =>
    obtain ⟨missing, h⟩ := h
    obtain ⟨g, a, hg, rfl, hvalue⟩ := exists_of_named h
    refine ⟨g, a, ⟨missing, hg⟩, rfl, ?_⟩
    rw [Parts.Says, Parts.at?]
    split at hvalue
    · exact hvalue
    · rw [hmissing] at hvalue
      exact (Option.some.inj hvalue).symm
  | listed items =>
    obtain ⟨short, rest, h⟩ := h
    obtain ⟨g, a, ahead, hg, rfl, -, hvalue⟩ := exists_of_listed h
    refine ⟨g, a, ⟨short, ahead, hg⟩, rfl, ?_⟩
    have hhead : ahead.head? = items[n]? := by rw [hr _ _ _ _ hg, List.head?_drop]
    rw [hhead] at hvalue
    rw [Parts.Says, Parts.at?]
    split at hvalue
    · exact hvalue
    · rcases hshort with hshort | hshort
      · rw [hshort] at hvalue
        exact (Option.some.inj hvalue).symm
      · rw [hshort] at hvalue
        cases hvalue

theorem eq_of_makes_start {a b : α} (h : (start a : Record V E α).Makes parts b) : b = a := by
  cases parts with
  | named members =>
    obtain ⟨missing, h⟩ := h
    exact (Except.ok.inj h).symm
  | listed items =>
    obtain ⟨short, rest, h⟩ := h
    exact (Prod.mk.inj (Except.ok.inj h)).1.symm

end Record

/-- A record that was read was made of its parts. -/
theorem Dialect.exists_makes {d : Dialect V E} {name : String} {r : Record V E α} {v : V} {a : α}
    (h : d.ofRecord name r v = .ok a) : ∃ parts, d.record name v = .ok parts ∧ r.Makes parts a := by
  unfold ofRecord at h
  split at h
  · cases h
  · next members hparts =>
    split at h
    · cases h
    · exact ⟨_, hparts, _, h⟩
  · next items hparts =>
    split at h
    · cases h
    · next hread =>
      cases h
      exact ⟨_, hparts, _, _, hread⟩
    · next hread =>
      obtain ⟨_, -, rfl⟩ := map_eq_ok_iff.mp h
      exact ⟨_, hparts, _, _, hread⟩

end VaultAccess.Decode
