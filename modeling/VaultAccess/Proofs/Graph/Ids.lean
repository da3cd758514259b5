import VaultAccess.Graph.Entitlement
import VaultAccess.Proofs.Text.Percent

/-!
# Ids

A resource is read back from the two fields that name it, whatever its name. A grant is read back
from its id if none of the five fields is empty and the slug has no colon; any other id of a grant
is refused. So the id tells which grant it is.
-/
namespace VaultAccess

open Text

/-! ## Resources -/

namespace ResourceId

theorem not_mem_name (kind : Kind) : ':' ∉ kind.name.toList := by
  cases kind <;> decide

theorem name_ne_empty (kind : Kind) : kind.name ≠ "" := by
  cases kind <;> decide

theorem not_mem_encode (name : String) : ':' ∉ (Percent.encode name).toList :=
  Percent.not_mem_encode (by decide) (by decide) name

/-- Only the empty name is written as nothing. -/
theorem encode_eq_empty_iff (name : String) : Percent.encode name = "" ↔ name = "" := by
  have hempty : Percent.encode "" = "" := rfl
  constructor
  · intro h
    exact Percent.encode_injective (h.trans hempty.symm)
  · rintro rfl
    exact hempty

/-- The characters of the two fields that name a resource. -/
theorem toList_segment (id : ResourceId) :
    id.segment.toList = id.kind.name.toList ++ ':' :: (Percent.encode id.name).toList := by
  simp [segment]

theorem fields_segment (id : ResourceId) :
    fields ':' id.segment.toList = [id.kind.name.toList, (Percent.encode id.name).toList] := by
  rw [toList_segment, fields_append_cons ':' _ _ (not_mem_name id.kind),
    fields_eq_singleton ':' _ (not_mem_encode id.name)]

/-- A resource is read back from its fields. -/
theorem ofFields_segment (id : ResourceId) :
    ofFields id.kind.name.toList (Percent.encode id.name).toList = .ok id := by
  simp [ofFields, Kind.parse]

theorem segment_injective {id other : ResourceId} (h : id.segment = other.segment) :
    id = other := by
  have hfields := congrArg (fun s : String => fields ':' s.toList) h
  simp only [fields_segment, List.cons.injEq, and_true, String.toList_inj] at hfields
  have hread := ofFields_segment id
  rw [hfields.1, hfields.2, ofFields_segment] at hread
  exact (Except.ok.inj hread).symm

end ResourceId

/-! ## Entitlements -/

namespace Entitlement

/-- The one entitlement of a resource tells by its id which resource it is. -/
theorem id_ofResource_inj {r other : Resource} :
    (ofResource r).id = (ofResource other).id ↔ r.id = other.id := by
  have hid (r : Resource) : (ofResource r).id = r.id.segment ++ (":" ++ assigned) := by
    rw [← String.append_assoc]
    rfl
  constructor
  · intro h
    rw [hid, hid] at h
    have hlist := congrArg String.toList h
    simp only [String.toList_append, List.append_cancel_right_eq] at hlist
    exact ResourceId.segment_injective (String.toList_inj.mp hlist)
  · intro h
    rw [hid, hid, h]

end Entitlement

/-! ## Grants -/

namespace Grant

/-- That no field of a grant's id is empty and no field but the last is cut by a colon. -/
def HasPlainId (g : Grant) : Prop :=
  g.entitlement.name ≠ "" ∧ g.principal.name ≠ "" ∧ g.slug ≠ "" ∧ ':' ∉ g.slug.toList

instance (g : Grant) : Decidable g.HasPlainId := inferInstanceAs (Decidable (_ ∧ _ ∧ _ ∧ _))

/-- Two fields come before the slug of an id. -/
theorem fields_id (g : Grant) :
    fields ':' g.id.toList =
      g.entitlement.kind.name.toList :: (Percent.encode g.entitlement.name).toList ::
        fields ':' (g.slug.toList ++ ':' :: g.principal.segment.toList) := by
  have hid : g.id.toList = g.entitlement.kind.name.toList ++ ':' ::
      ((Percent.encode g.entitlement.name).toList ++ ':' ::
        (g.slug.toList ++ ':' :: g.principal.segment.toList)) := by
    simp [id, ResourceId.toList_segment]
  rw [hid, fields_append_cons ':' _ _ (ResourceId.not_mem_name _),
    fields_append_cons ':' _ _ (ResourceId.not_mem_encode _)]

/-- An id whose slug has no colon has five fields. -/
theorem fields_id_of_not_mem {g : Grant} (h : ':' ∉ g.slug.toList) :
    fields ':' g.id.toList =
      [g.entitlement.kind.name.toList, (Percent.encode g.entitlement.name).toList,
        g.slug.toList, g.principal.kind.name.toList,
        (Percent.encode g.principal.name).toList] := by
  rw [fields_id, fields_append_cons ':' _ _ h, ResourceId.fields_segment]

/-- Every colon of a slug makes another field. -/
theorem length_fields_id_of_mem {g : Grant} (h : ':' ∈ g.slug.toList) :
    5 < (fields ':' g.id.toList).length := by
  have hcount : 0 < g.slug.toList.count ':' := List.count_pos_iff.mpr h
  have hprincipal : (fields ':' g.principal.segment.toList).length = 2 := by
    rw [ResourceId.fields_segment]
    rfl
  rw [length_fields] at hprincipal
  rw [fields_id, List.length_cons, List.length_cons, length_fields, List.count_append,
    List.count_cons_self]
  omega

/-- A text that does not have five fields is no id of a grant. -/
theorem parseId_of_length {text : String} (h : (fields ':' text.toList).length ≠ 5) :
    parseId text = .error (.form "grant" idForm text) := by
  unfold parseId
  split
  · next hfields =>
    rw [hfields] at h
    exact absurd rfl h
  · rfl

/-- A grant is read back from a plain id. -/
theorem parseId_id {g : Grant} (h : g.HasPlainId) : parseId g.id = .ok g := by
  obtain ⟨hentitlement, hprincipal, hslug, hcolon⟩ := h
  have hnames : ¬(g.entitlement.kind.name.toList = [] ∨
      (Percent.encode g.entitlement.name).toList = [] ∨ g.slug.toList = [] ∨
        g.principal.kind.name.toList = [] ∨ (Percent.encode g.principal.name).toList = []) := by
    simp only [String.toList_eq_nil_iff, ResourceId.name_ne_empty, ResourceId.encode_eq_empty_iff,
      hentitlement, hprincipal, hslug, or_self, not_false_eq_true]
  rw [parseId, fields_id_of_not_mem hcolon]
  simp only [if_neg hnames, ResourceId.ofFields_segment, Except.map, String.ofList_toList]

/-- Any other id is refused. -/
theorem parseId_id_of_not {g : Grant} (h : ¬g.HasPlainId) :
    parseId g.id = .error (.form "grant" idForm g.id) := by
  by_cases hcolon : ':' ∈ g.slug.toList
  · exact parseId_of_length (Nat.ne_of_gt (length_fields_id_of_mem hcolon))
  · have hempty : g.entitlement.kind.name.toList = [] ∨
        (Percent.encode g.entitlement.name).toList = [] ∨ g.slug.toList = [] ∨
          g.principal.kind.name.toList = [] ∨ (Percent.encode g.principal.name).toList = [] := by
      simp only [String.toList_eq_nil_iff, ResourceId.encode_eq_empty_iff]
      refine Decidable.byContradiction fun hnone => ?_
      simp only [not_or] at hnone
      exact h ⟨hnone.2.1, hnone.2.2.2.2, hnone.2.2.1, hcolon⟩
    rw [parseId, fields_id_of_not_mem hcolon]
    exact if_pos hempty

/-- Ids round trip. A grant is read back from its id exactly when both names and the slug are not
empty and the slug has no colon. The id of any other grant is refused, so no id is read as another
grant, and grants with such ids are told apart by them. -/
theorem id_round_trip :
    (∀ g : Grant, (parseId g.id = .ok g ↔
        g.entitlement.name ≠ "" ∧ g.principal.name ≠ "" ∧ g.slug ≠ "" ∧ ':' ∉ g.slug.toList) ∧
      (¬g.HasPlainId → parseId g.id = .error (.form "grant" idForm g.id))) ∧
    ∀ g other : Grant, g.HasPlainId → other.HasPlainId → g ≠ other → g.id ≠ other.id := by
  refine ⟨fun g => ⟨⟨fun hread => ?_, parseId_id⟩, parseId_id_of_not⟩,
    fun g other hg hother hne heq => ?_⟩
  · refine Decidable.byContradiction fun hnot => ?_
    rw [parseId_id_of_not hnot] at hread
    cases hread
  · have hread := parseId_id hg
    rw [heq, parseId_id hother] at hread
    exact hne (Except.ok.inj hread).symm

/-- A grant with separators and blanks in its names is read back, and one with a colon in its slug
is refused. -/
theorem id_round_trip_of_separators :
    parseId (Grant.id ⟨⟨.policy, "team:ops"⟩, assigned, ⟨.user, "svc:deploy bot%"⟩⟩) =
        .ok ⟨⟨.policy, "team:ops"⟩, assigned, ⟨.user, "svc:deploy bot%"⟩⟩ ∧
      parseId (Grant.id ⟨⟨.policy, "ops"⟩, "a:b", ⟨.user, "ada"⟩⟩) =
        .error (.form "grant" idForm (Grant.id ⟨⟨.policy, "ops"⟩, "a:b", ⟨.user, "ada"⟩⟩)) ∧
      Grant.id ⟨⟨.policy, "ops"⟩, assigned, ⟨.user, "ada"⟩⟩ ≠
        Grant.id ⟨⟨.policy, "ops"⟩, assigned, ⟨.user, "bob"⟩⟩ :=
  ⟨(id_round_trip.1 _).1.mpr (by decide), (id_round_trip.1 _).2 (by decide),
    id_round_trip.2 _ _ (by decide) (by decide) (by decide)⟩

end Grant

end VaultAccess
