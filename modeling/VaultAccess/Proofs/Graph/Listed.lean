import VaultAccess.Connector.Basic
import VaultAccess.Proofs.Graph.Grammar

/-!
# Rebuilding what is listed

An entitlement is listed with texts for display, and its id has none of them. They are made again
from the name of the resource. So an entitlement is rebuilt from its id if that name is what the
resource is shown under, which is so for roles and policies.
-/
namespace VaultAccess

open Vault

namespace Entitlement

/-- A description tells which resource it is of, what it is shown under and the slug. -/
theorem describe_inj {resource resource' : ResourceId} {shown shown' slug slug' : String} :
    describe resource shown slug = describe resource' shown' slug' ↔
      resource = resource' ∧ shown = shown' ∧ slug = slug' := by
  constructor
  · intro h
    have hresource : resource = resource' := congrArg Entitlement.resource h
    have hslug : slug = slug' := congrArg Entitlement.slug h
    subst hresource
    have hshown := congrArg (fun e => e.description.toList) h
    simp only [describe, String.toList_append, List.append_cancel_right_eq,
      List.append_cancel_left_eq, String.toList_inj] at hshown
    exact ⟨rfl, hshown, hslug⟩
  · rintro ⟨rfl, rfl, rfl⟩
    rfl

/-- What is read from an id has a name and a slug, and is shown under the name of its resource. -/
theorem plain_of_ofId {text : String} {e : Entitlement} (h : ofId text = .ok e) :
    (e.resource.name ≠ "" ∧ e.slug ≠ "" ∧ ':' ∉ e.slug.toList) ∧
      e = describe e.resource e.resource.name e.slug := by
  rw [ofId] at h
  cases hread : parseId text with
  | error f =>
    rw [hread] at h
    cases h
  | ok p =>
    obtain ⟨resource, slug⟩ := p
    rw [hread] at h
    obtain rfl := Except.ok.inj h
    exact ⟨plain_of_parseId hread, rfl⟩

/-- An entitlement is rebuilt from its id if the id can be read and it is shown under the name of
its resource. -/
theorem ofId_id_iff {e : Entitlement} :
    ofId e.id = .ok e ↔
      (e.resource.name ≠ "" ∧ e.slug ≠ "" ∧ ':' ∉ e.slug.toList) ∧
        e = describe e.resource e.resource.name e.slug := by
  refine ⟨plain_of_ofId, ?_⟩
  rintro ⟨⟨hname, hslug, hcolon⟩, hshown⟩
  rw [ofId, parseId_id hname hslug hcolon, hshown]
  rfl

/-- An id with an empty name is refused. -/
theorem ofId_id_of_empty {e : Entitlement} (hname : e.resource.name = "")
    (hcolon : ':' ∉ e.slug.toList) :
    ofId e.id = .error (.form "entitlement" "<kind>:<resource>:<slug>" e.id) := by
  have hempty : (Text.Percent.encode e.resource.name).toList = [] := by rw [hname]; rfl
  rw [ofId, parseId, fields_id_of_not_mem hcolon]
  simp only [hempty, true_or, or_true, if_true]
  rfl

/-- What a resource offers is rebuilt from its id if the resource has a name and is shown under
it. -/
theorem ofId_id_ofResource_iff {r : Resource} :
    ofId (ofResource r).id = .ok (ofResource r) ↔ r.id.name ≠ "" ∧ r.displayName = r.id.name := by
  have hslug : assigned ≠ "" := by decide
  have hcolon : ':' ∉ assigned.toList := by decide
  have hshown : ofResource r = describe r.id r.id.name assigned ↔ r.displayName = r.id.name := by
    rw [ofResource, describe_inj]
    simp
  rw [ofId_id_iff]
  constructor
  · rintro ⟨⟨hname, -, -⟩, hr⟩
    exact ⟨hname, hshown.mp hr⟩
  · rintro ⟨hname, hr⟩
    exact ⟨⟨hname, hslug, hcolon⟩, hshown.mpr hr⟩

/-- What is offered by a resource that is shown under its name is rebuilt from its id, unless the
name is empty and the id is refused. -/
theorem ofId_id_of_shown {r : Resource} (hshown : r.displayName = r.id.name) :
    (r.id.name ≠ "" → ofId (ofResource r).id = .ok (ofResource r)) ∧
      (r.id.name = "" → ofId (ofResource r).id =
        .error (.form "entitlement" "<kind>:<resource>:<slug>" (ofResource r).id)) :=
  ⟨fun hname => ofId_id_ofResource_iff.mpr ⟨hname, hshown⟩,
    fun hname => ofId_id_of_empty hname (show ':' ∉ assigned.toList by decide)⟩

end Entitlement

/-- What is listed is rebuilt from its id. The record of a role or of a policy becomes, under any
parent, a resource for which one entitlement is listed. If the record has a name, the id of that
entitlement is read as the entitlement, with the same texts for display. If its name is empty, the
id is refused, so no id of a listed entitlement is read as another. -/
theorem listed_rebuilt_from_ids (parent : Option ResourceId) :
    (∀ r : RoleRecord, ∃ e,
      Connector.entitlementsOf .role (Projection.ofRole r parent) = .single [e] ∧
        (r.name ≠ "" → Entitlement.ofId e.id = .ok e) ∧
        (r.name = "" → Entitlement.ofId e.id =
          .error (.form "entitlement" "<kind>:<resource>:<slug>" e.id))) ∧
    ∀ r : PolicyRecord, ∃ e,
      Connector.entitlementsOf .policy (Projection.ofPolicy r parent) = .single [e] ∧
        (r.name ≠ "" → Entitlement.ofId e.id = .ok e) ∧
        (r.name = "" → Entitlement.ofId e.id =
          .error (.form "entitlement" "<kind>:<resource>:<slug>" e.id)) := by
  -- both projections show a record under the name that becomes the name of the resource
  constructor
  · intro r
    have hshown : (Projection.ofRole r parent).displayName = r.name := rfl
    exact ⟨_, rfl, Entitlement.ofId_id_of_shown (r := Projection.ofRole r parent) hshown⟩
  · intro r
    have hshown : (Projection.ofPolicy r parent).displayName = r.name := rfl
    exact ⟨_, rfl, Entitlement.ofId_id_of_shown (r := Projection.ofPolicy r parent) hshown⟩

/-- A role whose name has separators and what looks like an escape is rebuilt, so is a policy whose
name has other letters, and one without a name is refused. -/
theorem listed_rebuilt_from_ids_of_escapes :
    let role : RoleRecord := ⟨"a:b%3A c", .token, none⟩
    let policy : PolicyRecord := ⟨"öps/🔑", some "kv"⟩
    (role.name ≠ "" ∧ ∃ e,
      Connector.entitlementsOf .role (Projection.ofRole role none) = .single [e] ∧
      e.id = "role:a%3Ab%253A%20c:assigned" ∧ e.displayName = "a:b%3A c role assigned" ∧
      Entitlement.ofId "role:a%3Ab%253A%20c:assigned" = .ok e) ∧
    (policy.name ≠ "" ∧ ∃ e,
      Connector.entitlementsOf .policy (Projection.ofPolicy policy none) = .single [e] ∧
      e.id = "policy:%C3%B6ps%2F%F0%9F%94%91:assigned" ∧
      e.description = "Assigned to öps/🔑 policy" ∧
      Entitlement.ofId "policy:%C3%B6ps%2F%F0%9F%94%91:assigned" = .ok e) ∧
    (∃ e, Connector.entitlementsOf .policy (Projection.ofPolicy ⟨"", none⟩ none) = .single [e] ∧
      ∃ fault, Entitlement.ofId e.id = .error fault) := by
  intro role policy
  obtain ⟨hroles, hpolicies⟩ := listed_rebuilt_from_ids none
  have hrole : role.name ≠ "" := by decide
  have hpolicy : policy.name ≠ "" := by decide
  obtain ⟨e, he, hread, -⟩ := hroles role
  obtain ⟨e', he', hread', -⟩ := hpolicies policy
  obtain ⟨e'', he'', -, hrefused⟩ := hpolicies ⟨"", none⟩
  cases he
  cases he'
  have hid : (Entitlement.ofResource (Projection.ofRole role none)).id =
      "role:a%3Ab%253A%20c:assigned" := by decide +kernel
  have hid' : (Entitlement.ofResource (Projection.ofPolicy policy none)).id =
      "policy:%C3%B6ps%2F%F0%9F%94%91:assigned" := by decide +kernel
  refine ⟨⟨hrole, _, rfl, hid, rfl, ?_⟩, ⟨hpolicy, _, rfl, hid', rfl, ?_⟩, e'', he'', _,
    hrefused rfl⟩
  · rw [← hid]
    exact hread hrole
  · rw [← hid']
    exact hread' hpolicy

end VaultAccess
