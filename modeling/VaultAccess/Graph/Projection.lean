import VaultAccess.Graph.Entitlement
import VaultAccess.Text.Edges
import VaultAccess.Vault.Record

/-!
# Records as resources

Every record becomes a resource, whatever it lacks: absent texts are empty, absent names are the
id. Members of a profile ascend by key.
-/
namespace VaultAccess.Projection

open Vault

/-- An absent text is empty. -/
def text (s : Option String) : Json := .str (s.getD "")

/-- Mount tables name a mount by its path with a slash at the end. -/
def mountName (path : String) : String := Text.trimSlashesEnd path

/-- A resource shown under its name. -/
def resource (kind : Kind) (name shown : String) (parent : Option ResourceId) (traits : Traits) :
    Resource :=
  ⟨⟨kind, name⟩, shown, parent, traits⟩

def ofUser (r : UserRecord) (parent : Option ResourceId) : Resource :=
  resource .user r.name r.name parent <| .user .enabled
    [("mount_type", text r.mountType),
      ("token_bound_cidrs", Json.ofStrings r.boundCidrs),
      ("token_policies", Json.ofStrings r.policies),
      ("token_ttl", Json.ofNat r.tokenTtl.toNat),
      ("user_id", .str r.name),
      ("user_name", .str r.name)]

def ofRole (r : RoleRecord) (parent : Option ResourceId) : Resource :=
  resource .role r.name r.name parent <| .role
    [("id", .str r.name),
      ("mount_type", .str (r.mountType.getD r.source.name)),
      ("name", .str r.name)]

def ofPolicy (r : PolicyRecord) (parent : Option ResourceId) : Resource :=
  resource .policy r.name r.name parent <| .app
    [("id", .str r.name),
      ("mount_type", text r.mountType),
      ("name", .str r.name)]

def ofSecret (r : MountRecord) (parent : Option ResourceId) : Resource :=
  let name := mountName r.path
  resource .secret name name parent <| .app
    [("accessor", text r.accessor),
      ("description", text r.description),
      ("id", .str name),
      ("mount_type", text r.mountType),
      ("name", .str name),
      ("options", Json.ofTexts r.options)]

def ofAuthMethod (r : MountRecord) (parent : Option ResourceId) : Resource :=
  let name := mountName r.path
  resource .authMethod name name parent <| .app
    [("accessor", text r.accessor),
      ("description", text r.description),
      ("id", .str name),
      ("mount_type", text r.mountType),
      ("name", .str name)]

def ofGroup (r : IdentityRecord) (parent : Option ResourceId) : Resource :=
  let shown := r.name.getD r.id
  resource .group r.id shown parent <| .group
    [("group_id", .str r.id),
      ("group_name", .str shown),
      ("group_type", text r.groupType),
      ("policies", Json.ofStrings r.policies)]

def ofEntity (r : IdentityRecord) (parent : Option ResourceId) : Resource :=
  let shown := r.name.getD r.id
  resource .entity r.id shown parent <| .app
    [("disabled", .bool r.disabled),
      ("id", .str r.id),
      ("metadata", Json.ofTexts r.metadata),
      ("name", .str shown),
      ("policies", Json.ofStrings r.policies)]

end VaultAccess.Projection
