import VaultAccess.Proofs.Connector.Drain
import VaultAccess.Proofs.Connector.Pages
import VaultAccess.Proofs.Vault.Rows

/-!
# The graph of a vault

A full sync reports the graph of the vault it walks: its resources by kind, what they offer, and who
holds them. The graph is stated entry by entry from what the vault holds. Neither the size of a page
nor an earlier mounting pass makes a difference.
-/
namespace VaultAccess

open Vault Program Paging Json

namespace Vault.Holdings

/-- The resources of a kind, one for each entry. -/
def resources (h : Holdings) : Kind → List Resource
  | .user => h.users.map fun u => Projection.ofUser (.ofEntry u) none
  | .role => (h.roles .approle ++ h.roles .token).map (Projection.ofRole · none)
  | .policy => h.policies.told.map fun name => Projection.ofPolicy ⟨name, h.policies.mountType⟩ none
  | .secret => h.mounts.byPath.map (Projection.ofSecret · none)
  | .authMethod => h.authMethods.byPath.map (Projection.ofAuthMethod · none)
  | .group => h.groups.data.byPlace.map (Projection.ofGroup · none)
  | .entity => h.entities.data.byPlace.map (Projection.ofEntity · none)

/-- The graph of a vault: the resources of all kinds, an entitlement for every role and policy, and
for every policy a grant to each user whose list has it, however often. Kinds are counted in the
byte order of their names. -/
def graph (h : Holdings) : Connector.Report where
  counts := [("auth_method", (h.resources .authMethod).length),
    ("entity", (h.resources .entity).length), ("group", (h.resources .group).length),
    ("policy", (h.resources .policy).length), ("role", (h.resources .role).length),
    ("secret", (h.resources .secret).length), ("user", (h.resources .user).length)]
  resources := h.resources .user ++ h.resources .role ++ h.resources .policy ++
    h.resources .secret ++ h.resources .authMethod ++ h.resources .group ++ h.resources .entity
  entitlements := (h.resources .role ++ h.resources .policy).map .ofResource
  grants := h.policies.told.flatMap fun policy =>
    (h.users.filter fun u => policy ∈ u.2.toldPolicies).map fun u =>
      ⟨⟨.policy, policy⟩, "assigned", ⟨.user, u.1⟩⟩

/-- The grants of a policy: one for each user who holds it, however often. -/
def grantsOf (h : Holdings) (policy : ResourceId) : List Grant :=
  (holders policy.name h.users).map (Membership.grantOf policy)

theorem resources_user (h : Holdings) : h.resources .user = h.users.map Projection.ofListed := by
  refine List.map_congr_left fun u _ => ?_
  rw [Projection.ofListed, UserAnswer.record_eq]

theorem resources_policy (h : Holdings) :
    h.resources .policy = h.policyRecords.map (Projection.ofPolicy · none) := by
  rw [resources, policyRecords, List.map_map, PolicyListing.names_eq]
  rfl

theorem graph_resources (h : Holdings) : h.graph.resources = Kind.all.flatMap h.resources := by
  simp [graph, Kind.all]

theorem graph_grants (h : Holdings) :
    h.graph.grants = h.policies.names.flatMap fun policy => h.grantsOf ⟨.policy, policy⟩ := by
  rw [graph, PolicyListing.names_eq]
  refine congrArg (List.flatMap · h.policies.told) (funext fun policy => ?_)
  simp only [grantsOf, holders, List.map_map, UserAnswer.policyList_eq]
  rfl

/-- Holdings whose users and mounts have distinct names, those of users such that the connector
takes them. A listing of users is read into memory, so a machine word counts them. -/
structure Regular (h : Holdings) : Prop where
  named : h.WellNamed
  users : (h.users.map (·.1)).Nodup
  mounts : (h.mounts.map (·.1)).Nodup
  authMethods : (h.authMethods.map (·.1)).Nodup
  counted : h.users.length ≤ Text.Decimal.wordLimit

end Vault.Holdings

namespace Connector

open Session

variable {τ : Type} {rest : Gateway τ} {h : Holdings} {t : τ}

/-! ## One kind -/

theorem gives_wholeListing {ρ : Type} (c : Connector) (kind : Kind) {records : Action (List ρ)}
    {found : List ρ} (project : ρ → Option ResourceId → Resource)
    (hrecords : records.on (Holdings.gateway rest) (h, t) = (.ok found, (h, t))) :
    Gives (Holdings.gateway rest) (h, t)
      (drain fun cursor => c.mounted (wholeListing kind records project none cursor))
      (found.map (project · none)) :=
  Gives.drain_single (Gives.mounted c (on_wholeListing rest kind project hrecords))

/-- Listing a kind other than users gives its resources. -/
theorem gives_list_of_ne_user (c : Connector) (hmounts : (h.mounts.map (·.1)).Nodup)
    (hauthMethods : (h.authMethods.map (·.1)).Nodup) {kind : Kind} (hkind : kind ≠ .user) :
    Gives (Holdings.gateway rest) (h, t) (drain fun cursor => c.list kind none cursor)
      (h.resources kind) := by
  cases kind with
  | user => exact absurd rfl hkind
  | role =>
    have hnone : none ≠ some "" := nofun
    have hfirst := on_listRolePage rest (h := h) (t := t) hnone (offsetMarker_ne_empty 1)
      rolePhase_start
    have hsecond := on_listRolePage rest (h := h) (t := t) (offsetMarker_ne_empty 1) hnone
      rolePhase_second
    rw [Holdings.resources, List.map_append]
    exact Gives.drain_pair (bookmark_some_ne .role _) (Gives.mounted c hfirst)
      (Gives.mounted c hsecond)
  | policy =>
    rw [Holdings.resources_policy]
    exact gives_wholeListing c .policy _ (on_listPolicies rest h t)
  | secret =>
    have hrecords := on_listSecretMounts rest h t
    rw [MountTable.records_sorted hmounts] at hrecords
    exact gives_wholeListing c .secret _ hrecords
  | authMethod =>
    have hrecords := on_listAuthMethods rest h t
    rw [MountTable.records_sorted hauthMethods] at hrecords
    exact gives_wholeListing c .authMethod _ hrecords
  | group =>
    have hrecords := on_listGroups rest h t
    rw [KeyList.records_sorted] at hrecords
    exact gives_wholeListing c .group _ hrecords
  | entity =>
    have hrecords := on_listEntities rest h t
    rw [KeyList.records_sorted] at hrecords
    exact gives_wholeListing c .entity _ hrecords

/-- Listing a kind gives its resources. -/
theorem gives_list (c : Connector) (hh : h.Regular) (kind : Kind) :
    Gives (Holdings.gateway rest) (h, t) (drain fun cursor => c.list kind none cursor)
      (h.resources kind) := by
  by_cases hkind : kind = .user
  · subst hkind
    rw [Holdings.resources_user]
    refine Gives.drain_windows .user h.users c.pageSize (List.map Projection.ofListed)
      (fun xs ys => List.map_append) hh.counted fun offset batch hwindow => ?_
    exact Gives.mounted c
      (on_listUserPage rest hh.named hh.users (offsetMarker_ne_empty offset) hwindow)
  · exact gives_list_of_ne_user c hh.mounts hh.authMethods hkind

/-- What the resources of a kind offer. -/
def offered (kind : Kind) (resources : List Resource) : List Entitlement :=
  match kind with
  | .policy | .role => resources.map .ofResource
  | _ => []

/-- Who holds what the resources of a kind offer. -/
def held (h : Holdings) (kind : Kind) (resources : List Resource) : List Grant :=
  match kind with
  | .policy => resources.flatMap fun r => h.grantsOf r.id
  | _ => []

theorem gives_entitlements (c : Connector) (kind : Kind) (r : Resource) :
    Gives (Holdings.gateway rest) (h, t) (drain fun _ => c.entitlements kind r)
      (offered kind [r]) := by
  cases kind
  all_goals exact Gives.drain_single (Gives.mounted c rfl)

/-- Draining the grants of a resource gives those of its policy, for every kind. -/
theorem gives_grants (c : Connector) (hh : h.Regular) (kind : Kind) (r : Resource) :
    Gives (Holdings.gateway rest) (h, t) (drain fun cursor => c.grants kind r cursor)
      (held h kind [r]) := by
  cases kind with
  | policy =>
    have hheld : held h .policy [r] = h.grantsOf r.id := List.append_nil _
    rw [hheld]
    refine Gives.drain_windows .user h.users c.pageSize
      (fun users => (Holdings.holders r.id.name users).map (Membership.grantOf r.id))
      (fun xs ys => ?_) hh.counted fun offset batch hwindow => ?_
    · rw [Holdings.holders, List.filter_append, List.map_append, List.map_append]
      rfl
    · exact Gives.mounted c
        (on_grants rest hh.named hh.users r (offsetMarker_ne_empty offset) hwindow)
  | _ => exact Gives.drain_single (Gives.mounted c rfl)

/-- What a list of resources offers and who holds it is gathered resource by resource. -/
theorem gives_holdings (c : Connector) (hh : h.Regular) (kind : Kind) (rs : List Resource) :
    Gives (Holdings.gateway rest) (h, t) (c.holdings kind rs)
      (offered kind rs, held h kind rs) := by
  induction rs with
  | nil => cases kind <;> exact Gives.pure _
  | cons r rs ih =>
    have hoffered : offered kind (r :: rs) = offered kind [r] ++ offered kind rs := by
      cases kind <;> rfl
    have hheld : held h kind (r :: rs) = held h kind [r] ++ held h kind rs := by
      cases kind <;> simp [held]
    rw [hoffered, hheld]
    exact (gives_entitlements c kind r).bind <| (gives_grants c hh kind r).bind <|
      ih.bind (Gives.pure _)

/-! ## All kinds -/

/-- A report with what a kind holds added to it. -/
def withKind (h : Holdings) (report : Report) (kind : Kind) : Report where
  counts := insertMember kind.name (h.resources kind).length report.counts
  resources := report.resources ++ h.resources kind
  entitlements := report.entitlements ++ offered kind (h.resources kind)
  grants := report.grants ++ held h kind (h.resources kind)

theorem gives_syncKind (c : Connector) (hh : h.Regular) (kind : Kind) (report : Report) :
    Gives (Holdings.gateway rest) (h, t) (c.syncKind kind report) (withKind h report kind) :=
  (gives_list c hh kind).bind <| (Gives.ofTask rfl).bind <|
    (gives_holdings c hh kind (h.resources kind)).bind (Gives.pure _)

theorem gives_syncKinds (c : Connector) (hh : h.Regular) (kinds : List Kind) (report : Report) :
    Gives (Holdings.gateway rest) (h, t) (c.syncKinds kinds report)
      (kinds.foldl (withKind h) report) := by
  induction kinds generalizing report with
  | nil => exact Gives.pure report
  | cons kind kinds ih => exact (gives_syncKind c hh kind report).bind (ih _)

/-- What several kinds hold is added kind by kind. -/
theorem foldl_withKind (h : Holdings) (kinds : List Kind) (report : Report) :
    kinds.foldl (withKind h) report =
      ⟨(kinds.map fun kind => (kind.name, (h.resources kind).length)).foldl
          (fun counts m => insertMember m.1 m.2 counts) report.counts,
        report.resources ++ kinds.flatMap h.resources,
        report.entitlements ++ kinds.flatMap fun kind => offered kind (h.resources kind),
        report.grants ++ kinds.flatMap fun kind => held h kind (h.resources kind)⟩ := by
  induction kinds generalizing report with
  | nil => simp
  | cons kind kinds ih => simp [ih, withKind]

/-- The report of all kinds is the graph. -/
theorem foldl_all (h : Holdings) : Kind.all.foldl (withKind h) .empty = h.graph := by
  have hcounts : sortMembers (Kind.all.map fun kind => (kind.name, (h.resources kind).length)) =
      h.graph.counts := by
    simp +decide only [Kind.all, Kind.name, sortMembers, insertMember, Holdings.graph,
      List.map_cons, List.map_nil, List.foldl_cons, List.foldl_nil, if_true, if_false]
  have hentitlements : (Kind.all.flatMap fun kind => offered kind (h.resources kind)) =
      h.graph.entitlements := by
    simp [Kind.all, offered, Holdings.graph]
  have hgrants : (Kind.all.flatMap fun kind => held h kind (h.resources kind)) =
      h.graph.grants := by
    rw [Holdings.graph_grants]
    simp only [Kind.all, held, List.flatMap_cons, List.flatMap_nil, List.nil_append,
      List.append_nil, Holdings.resources_policy, Holdings.policyRecords, List.flatMap_map]
    rfl
  rw [foldl_withKind, hentitlements, hgrants, ← Holdings.graph_resources]
  exact congrArg (fun counts => { h.graph with counts }) hcounts

/-- A full sync reports the graph of the vault and nothing else. Where the backends can be enabled
it succeeds, for every page size and whether or not they have been mounted before, and leaves what
the vault holds as it is. -/
theorem fullSync_reports_graph (c : Connector) (henable : Backend.CanEnable rest c.backends)
    (hh : h.Regular) (memory : Memory) (t : τ) :
    ∃ outcomes t', Program.run (Holdings.gateway rest) (c.fullSync.run memory) (h, t) =
      ((.ok h.graph, ⟨some outcomes⟩), (h, t')) := by
  refine Gives.bootstrap_bind henable (fun _ t' => ?_) memory t
  have hkinds : Gives (Holdings.gateway rest) (h, t') (c.syncKinds Kind.all .empty) h.graph :=
    foldl_all h ▸ gives_syncKinds c hh Kind.all .empty
  exact hkinds.bind <| (Gives.ofTask rfl).bind (Gives.pure _)

/-- A vault with something of every kind, whose mounts and options are not in order. -/
def furnished : Holdings where
  users := [("ada", ⟨⟨some ["dev", "ops", "dev"], some ["old"], none, none⟩, none⟩),
    ("bob", ⟨⟨none, some ["dev"], some ["10.0.0.0/8"], some 60⟩, some "userpass"⟩)]
  approleRoles := ⟨⟨["ci"], []⟩, none⟩
  tokenRoles := ⟨⟨["nightly"], []⟩, some "batch"⟩
  policies := ⟨["root"], [], some ⟨["dev"], []⟩, none⟩
  mounts := [("secret/", ⟨some "kv", none, some "kv_1",
      some [("version", "1"), ("cas", "true"), ("version", "2")], none⟩),
    ("cubbyhole/", ⟨some "cubbyhole", some "one per token", none, none, some true⟩)]
  authMethods := [("userpass/", ⟨some "userpass", none, none, none, none⟩)]
  groups := ⟨⟨["g1"], [("g1", ⟨some "admins", some "internal", some ["ops"], none, none⟩)]⟩, none⟩
  entities := ⟨⟨["e1", "e2"],
    [("e1", ⟨none, none, none, some true, some [("team", "core")]⟩)]⟩, none⟩

/-- Everything that there is to report of it. -/
def furnishedReport : Report where
  counts := [("auth_method", 1), ("entity", 2), ("group", 1), ("policy", 1), ("role", 2),
    ("secret", 2), ("user", 2)]
  resources := [
    ⟨⟨.user, "ada"⟩, "ada", none, .user .enabled [("mount_type", .str ""),
      ("token_bound_cidrs", .arr []),
      ("token_policies", .arr [.str "dev", .str "ops", .str "dev"]), ("token_ttl", .num (.int 0)),
      ("user_id", .str "ada"), ("user_name", .str "ada")]⟩,
    ⟨⟨.user, "bob"⟩, "bob", none, .user .enabled [("mount_type", .str "userpass"),
      ("token_bound_cidrs", .arr [.str "10.0.0.0/8"]), ("token_policies", .arr [.str "dev"]),
      ("token_ttl", .num (.int 60)), ("user_id", .str "bob"), ("user_name", .str "bob")]⟩,
    ⟨⟨.role, "ci"⟩, "ci", none, .role [("id", .str "ci"), ("mount_type", .str "approle"),
      ("name", .str "ci")]⟩,
    ⟨⟨.role, "nightly"⟩, "nightly", none, .role [("id", .str "nightly"),
      ("mount_type", .str "batch"), ("name", .str "nightly")]⟩,
    ⟨⟨.policy, "dev"⟩, "dev", none, .app [("id", .str "dev"), ("mount_type", .str ""),
      ("name", .str "dev")]⟩,
    ⟨⟨.secret, "cubbyhole"⟩, "cubbyhole", none, .app [("accessor", .str ""),
      ("description", .str "one per token"), ("id", .str "cubbyhole"),
      ("mount_type", .str "cubbyhole"), ("name", .str "cubbyhole"), ("options", .obj [])]⟩,
    ⟨⟨.secret, "secret"⟩, "secret", none, .app [("accessor", .str "kv_1"),
      ("description", .str ""), ("id", .str "secret"), ("mount_type", .str "kv"),
      ("name", .str "secret"),
      ("options", .obj [("cas", .str "true"), ("version", .str "2")])]⟩,
    ⟨⟨.authMethod, "userpass"⟩, "userpass", none, .app [("accessor", .str ""),
      ("description", .str ""), ("id", .str "userpass"), ("mount_type", .str "userpass"),
      ("name", .str "userpass")]⟩,
    ⟨⟨.group, "g1"⟩, "admins", none, .group [("group_id", .str "g1"),
      ("group_name", .str "admins"), ("group_type", .str "internal"),
      ("policies", .arr [.str "ops"])]⟩,
    ⟨⟨.entity, "e1"⟩, "e1", none, .app [("disabled", .bool true), ("id", .str "e1"),
      ("metadata", .obj [("team", .str "core")]), ("name", .str "e1"), ("policies", .arr [])]⟩,
    ⟨⟨.entity, "e2"⟩, "e2", none, .app [("disabled", .bool false), ("id", .str "e2"),
      ("metadata", .obj []), ("name", .str "e2"), ("policies", .arr [])]⟩]
  entitlements := [
    ⟨⟨.role, "ci"⟩, "assigned", "ci role assigned", "Assigned to ci role", [.user]⟩,
    ⟨⟨.role, "nightly"⟩, "assigned", "nightly role assigned", "Assigned to nightly role", [.user]⟩,
    ⟨⟨.policy, "dev"⟩, "assigned", "dev policy assigned", "Assigned to dev policy", [.user]⟩]
  grants := [⟨⟨.policy, "dev"⟩, "assigned", ⟨.user, "ada"⟩⟩,
    ⟨⟨.policy, "dev"⟩, "assigned", ⟨.user, "bob"⟩⟩]

theorem furnished_regular : furnished.Regular where
  named := by simp [Holdings.WellNamed, furnished, Holdings.IsSegment]
  users := by decide
  mounts := by decide
  authMethods := by decide
  counted := by decide

/-- The tables are put in order by the sorting of the client, which can be carried out. -/
theorem graph_furnished : furnished.graph = furnishedReport := by
  simp only [Holdings.graph, Holdings.resources,
    ← MountTable.records_sorted furnished_regular.mounts,
    ← MountTable.records_sorted furnished_regular.authMethods, ← KeyList.records_sorted]
  rfl

/-- A full sync of the furnished vault reports all of it, whatever the size of a page. -/
theorem fullSync_reports_graph_of_furnished :
    Backend.CanEnable Holdings.obliging Backend.defaults ∧ furnished.Regular ∧
      ∀ size, ∃ outcomes t', Program.run (Holdings.gateway Holdings.obliging)
        ((fullSync ⟨Backend.defaults, size⟩).run .fresh) (furnished, ()) =
          ((.ok furnishedReport, ⟨some outcomes⟩), (furnished, t')) := by
  refine ⟨Backend.canEnable_obliging _, furnished_regular, fun size => ?_⟩
  rw [← graph_furnished]
  exact fullSync_reports_graph ⟨Backend.defaults, size⟩ (Backend.canEnable_obliging _)
    furnished_regular .fresh ()

end Connector

end VaultAccess
