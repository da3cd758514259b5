import Mathlib.Data.List.Nodup
import VaultAccess.Proofs.Connector.Reports
import VaultAccess.Proofs.Graph.Ids
import VaultAccess.Proofs.Vault.Identities

/-!
# What ids tell apart

The ids of a report are the names of the vault by kind. The source of a role is not part of its id,
nor are the slashes at the end of the path of a mount. So ids repeat where both sources have a role
of one name, or where a mount table has two paths that are the same but for such slashes, and
nowhere else.
-/
namespace VaultAccess

open Vault Program

namespace Vault

/-- That the paths of a mount table are the names of different mounts. -/
def MountTable.Apart (table : MountTable) : Prop :=
  ∀ path ∈ table.map (·.1), ∀ other ∈ table.map (·.1),
    Projection.mountName path = Projection.mountName other → path = other

instance (table : MountTable) : Decidable table.Apart :=
  inferInstanceAs (Decidable (∀ path ∈ _, ∀ other ∈ _, _ → _))

namespace Holdings

/-- That no role of one source has the name of a role of the other. -/
def RolesApart (h : Holdings) : Prop :=
  ∀ name ∈ h.approleRoles.data.keys, name ∉ h.tokenRoles.data.keys

instance (h : Holdings) : Decidable h.RolesApart :=
  inferInstanceAs (Decidable (∀ name ∈ _, name ∉ _))

/-- Holdings none of whose listings repeats a name. -/
structure Unrepeated (h : Holdings) : Prop extends h.Keyed where
  approleRoles : h.approleRoles.data.keys.Nodup
  tokenRoles : h.tokenRoles.data.keys.Nodup
  policies : h.policies.names.Nodup
  groups : h.groups.data.keys.Nodup
  entities : h.entities.data.keys.Nodup

/-- The names of the resources of a kind. -/
def names (h : Holdings) : Kind → List String
  | .user => h.users.map (·.1)
  | .role => h.approleRoles.data.keys ++ h.tokenRoles.data.keys
  | .policy => h.policies.names
  | .secret => h.mounts.byPath.map fun m => Projection.mountName m.path
  | .authMethod => h.authMethods.byPath.map fun m => Projection.mountName m.path
  | .group => h.groups.data.keys
  | .entity => h.entities.data.keys

end Holdings

/-- The mounts of a table are told apart by their names where no two paths share one. -/
theorem MountTable.nodup_names_iff {table : MountTable} (hnodup : (table.map (·.1)).Nodup) :
    (table.byPath.map fun m => Projection.mountName m.path).Nodup ↔ table.Apart := by
  have hpaths : table.byPath.map MountRecord.path = (Json.byKey table).map (·.1) := List.map_map
  have hperm : (table.byPath.map MountRecord.path).Perm (table.map (·.1)) := by
    rw [hpaths]
    exact (List.mergeSort_perm table Json.keyLe).map (·.1)
  have hnames := hperm.map Projection.mountName
  rw [List.map_map] at hnames
  exact hnames.nodup_iff.trans (List.nodup_map_iff_inj_on hnodup)

namespace Holdings

theorem ids_map {ρ : Type} {kind : Kind} (project : ρ → Resource) (name : ρ → String)
    (hid : ∀ r, (project r).id = ⟨kind, name r⟩) (records : List ρ) :
    (records.map project).map Resource.id = (records.map name).map (ResourceId.mk kind) := by
  simp only [List.map_map]
  exact List.map_congr_left fun r _ => hid r

/-- Resources have the names of their kind. -/
theorem ids_resources (h : Holdings) (kind : Kind) :
    (h.resources kind).map Resource.id = (h.names kind).map (ResourceId.mk kind) := by
  cases kind with
  | user =>
    rw [resources_user]
    exact ids_map Projection.ofListed (·.1) (fun _ => rfl) h.users
  | role =>
    have hnames : (h.roles .approle ++ h.roles .token).map RoleRecord.name = h.names .role := by
      simp [roles, names, Function.comp_def]
    rw [← hnames]
    exact ids_map (Projection.ofRole · none) RoleRecord.name (fun _ => rfl) _
  | policy =>
    have hnames : h.policyRecords.map PolicyRecord.name = h.names .policy := by
      simp [policyRecords, names, Function.comp_def]
    rw [← hnames, resources_policy]
    exact ids_map (Projection.ofPolicy · none) PolicyRecord.name (fun _ => rfl) _
  | secret =>
    exact ids_map (Projection.ofSecret · none) (fun m => Projection.mountName m.path)
      (fun _ => rfl) h.mounts.byPath
  | authMethod =>
    exact ids_map (Projection.ofAuthMethod · none) (fun m => Projection.mountName m.path)
      (fun _ => rfl) h.authMethods.byPath
  | group =>
    have hnames : h.groups.data.byPlace.map IdentityRecord.id = h.names .group :=
      KeyList.ids_byPlace _
    rw [← hnames]
    exact ids_map (Projection.ofGroup · none) IdentityRecord.id (fun _ => rfl) _
  | entity =>
    have hnames : h.entities.data.byPlace.map IdentityRecord.id = h.names .entity :=
      KeyList.ids_byPlace _
    rw [← hnames]
    exact ids_map (Projection.ofEntity · none) IdentityRecord.id (fun _ => rfl) _

variable {h : Holdings}

/-- The ids of some kinds are distinct where the names of each of them are. -/
theorem nodup_ids_iff (h : Holdings) {kinds : List Kind} (hkinds : kinds.Nodup) :
    ((kinds.flatMap h.resources).map Resource.id).Nodup ↔
      ∀ kind ∈ kinds, (h.names kind).Nodup := by
  have hids : (kinds.flatMap h.resources).map Resource.id =
      kinds.flatMap fun kind => (h.names kind).map (ResourceId.mk kind) := by
    rw [List.map_flatMap]
    exact List.flatMap_congr fun kind _ => ids_resources h kind
  have hsame (kind : Kind) : ((h.names kind).map (ResourceId.mk kind)).Nodup ↔
      (h.names kind).Nodup :=
    List.nodup_map_iff fun _ _ heq => congrArg ResourceId.name heq
  have hapart : kinds.Pairwise fun kind other =>
      ((h.names kind).map (ResourceId.mk kind)).Disjoint
        ((h.names other).map (ResourceId.mk other)) := by
    refine hkinds.imp fun {kind other} hne id hid hother => hne ?_
    obtain ⟨name, -, rfl⟩ := List.mem_map.mp hid
    obtain ⟨name', -, heq⟩ := List.mem_map.mp hother
    exact (congrArg ResourceId.kind heq).symm
  rw [hids, List.nodup_flatMap]
  simp only [hsame]
  exact ⟨fun hnodup => hnodup.1, fun hnodup => ⟨hnodup, hapart⟩⟩

theorem Unrepeated.nodup_roles_iff (hh : h.Unrepeated) :
    (h.names .role).Nodup ↔ h.RolesApart := by
  rw [names, List.nodup_append]
  constructor
  · rintro ⟨-, -, hapart⟩ name hname hother
    exact hapart name hname name hother rfl
  · intro hapart
    refine ⟨hh.approleRoles, hh.tokenRoles, fun name hname other hother heq => ?_⟩
    exact hapart name hname (heq ▸ hother)

/-- Where no listing repeats a name, only roles and mounts can share one. -/
theorem Unrepeated.nodup_names_iff (hh : h.Unrepeated) :
    (∀ kind ∈ Kind.all, (h.names kind).Nodup) ↔
      h.RolesApart ∧ h.mounts.Apart ∧ h.authMethods.Apart := by
  have hroles := hh.nodup_roles_iff
  have hmounts : (h.names .secret).Nodup ↔ h.mounts.Apart := MountTable.nodup_names_iff hh.mounts
  have hauthMethods : (h.names .authMethod).Nodup ↔ h.authMethods.Apart :=
    MountTable.nodup_names_iff hh.authMethods
  rw [← hroles, ← hmounts, ← hauthMethods]
  constructor
  · intro hall
    exact ⟨hall .role (by decide), hall .secret (by decide), hall .authMethod (by decide)⟩
  · rintro ⟨hrole, hsecret, hmethod⟩ kind -
    cases kind with
    | user => exact hh.users
    | role => exact hrole
    | policy => exact hh.policies
    | secret => exact hsecret
    | authMethod => exact hmethod
    | group => exact hh.groups
    | entity => exact hh.entities

end Holdings

end Vault

/-- The ids of what resources offer are distinct where those of the resources are. -/
theorem Entitlement.nodup_ids_iff (resources : List Resource) :
    ((resources.map Entitlement.ofResource).map Entitlement.id).Nodup ↔
      (resources.map Resource.id).Nodup := by
  simp only [List.Nodup, List.pairwise_map, ne_eq, Entitlement.id_ofResource_inj]

namespace Connector

variable {τ : Type} (c : Connector) (rest : Gateway τ) {h : Holdings} (memory : Memory) (t : τ)

/-- Where no listing of a vault repeats a name, the resources of a report have distinct ids exactly
if no role of one source has the name of a role of the other, and no two paths in a mount table are
the same but for slashes at the end. What they offer has distinct ids exactly if roles have. -/
theorem ids_distinct_iff (hh : h.Unrepeated) {report : Report}
    (hreport : c.syncResult (Holdings.gateway rest) memory (h, t) = .ok report) :
    ((report.resources.map Resource.id).Nodup ↔
      h.RolesApart ∧ h.mounts.Apart ∧ h.authMethods.Apart) ∧
    ((report.entitlements.map Entitlement.id).Nodup ↔ h.RolesApart) := by
  obtain rfl := graph_of_report hh.toKeyed hreport
  constructor
  · rw [Holdings.graph_resources]
    have hids := Holdings.nodup_ids_iff h (show Kind.all.Nodup by decide)
    exact hids.trans hh.nodup_names_iff
  · have hids := Holdings.nodup_ids_iff h (show [Kind.role, Kind.policy].Nodup by decide)
    have hoffered : [Kind.role, Kind.policy].flatMap h.resources =
        h.resources .role ++ h.resources .policy := by simp
    rw [hoffered] at hids
    have hnames : (∀ kind ∈ [Kind.role, Kind.policy], (h.names kind).Nodup) ↔
        (h.names .role).Nodup := by simp [show (h.names .policy).Nodup from hh.policies]
    exact (Entitlement.nodup_ids_iff _).trans (hids.trans (hnames.trans hh.nodup_roles_iff))

/-- A vault with a role of each source and two mounts, one of each by a given name. -/
def pairs (role mount : String) : Holdings where
  users := []
  approleRoles := ⟨⟨["ci"], []⟩, none⟩
  tokenRoles := ⟨⟨[role], []⟩, none⟩
  policies := ⟨[], [], none, none⟩
  mounts := [("kv/", ⟨none, none, none, none, none⟩), (mount, ⟨none, none, none, none, none⟩)]
  authMethods := []
  groups := .empty
  entities := .empty

theorem pairs_unrepeated (role : String) {mount : String} (hmount : mount ≠ "kv/") :
    (pairs role mount).Unrepeated where
  users := .nil
  mounts := by simpa [pairs] using hmount.symm
  authMethods := .nil
  approleRoles := List.nodup_singleton _
  tokenRoles := List.nodup_singleton _
  policies := .nil
  groups := .nil
  entities := .nil

/-- Pairs of different names have distinct ids. -/
theorem ids_distinct_of_pairs :
    (pairs "deploy" "secret/").Unrepeated ∧
    ∃ report, syncResult ⟨Backend.defaults, 1⟩ (Holdings.gateway Holdings.obliging) .fresh
        (pairs "deploy" "secret/", ()) = .ok report ∧
      (report.resources.map Resource.id).Nodup ∧ (report.entitlements.map Entitlement.id).Nodup := by
  have hh : (pairs "deploy" "secret/").Unrepeated := pairs_unrepeated "deploy" (by decide)
  have hsome : (syncResult ⟨Backend.defaults, 1⟩ (Holdings.gateway Holdings.obliging) .fresh
      (pairs "deploy" "secret/", ())).toOption.isSome := by decide +kernel
  obtain ⟨report, hreport⟩ := Option.isSome_iff_exists.mp hsome
  have hresult := ok_of_toOption hreport
  have hids := ids_distinct_iff ⟨Backend.defaults, 1⟩ Holdings.obliging .fresh () hh hresult
  exact ⟨hh, report, hresult, hids.1.mpr (by decide), hids.2.mpr (by decide)⟩

/-- Pairs of one name share ids, though no listing repeats a name: two roles of different sources
with the same name, and two mounts whose paths differ only in a slash. -/
theorem pairs_share_ids :
    (pairs "ci" "kv").Unrepeated ∧
    ∃ report, syncResult ⟨Backend.defaults, 1⟩ (Holdings.gateway Holdings.obliging) .fresh
        (pairs "ci" "kv", ()) = .ok report ∧
      ¬(report.resources.map Resource.id).Nodup ∧
      ¬(report.entitlements.map Entitlement.id).Nodup := by
  have hids : (syncResult ⟨Backend.defaults, 1⟩ (Holdings.gateway Holdings.obliging) .fresh
      (pairs "ci" "kv", ())).toOption.map
        (fun report => (report.resources.map Resource.id, report.entitlements.map Entitlement.id)) =
      some ([⟨.role, "ci"⟩, ⟨.role, "ci"⟩, ⟨.secret, "kv"⟩, ⟨.secret, "kv"⟩],
        ["role:ci:assigned", "role:ci:assigned"]) := by decide +kernel
  obtain ⟨report, hreport, hboth⟩ := Option.map_eq_some_iff.mp hids
  obtain ⟨hresources, hentitlements⟩ := Prod.mk.inj hboth
  refine ⟨pairs_unrepeated "ci" (by decide), report, ok_of_toOption hreport, ?_, ?_⟩
  · rw [hresources]
    decide
  · rw [hentitlements]
    decide

end Connector

end VaultAccess
