import VaultAccess.Proofs.Vault.Server

/-!
# Reading a vault

What every reading operation of the client gives at a vault. None of them changes anything.
-/
namespace VaultAccess.Vault

open Program

variable {τ : Type} (rest : Gateway τ) (h : Holdings) (t : τ)

/-- Listings and values are told outright. -/
theorem Holdings.gateway_told {r : Request} {response : Response}
    (hunder : Endpoint.isUnderUsers r.path = false) (htold : h.told? r = some response) :
    (gateway rest).answer r (h, t) = (.ok response, (h, t)) := by
  simp [gateway, hunder, htold]

/-- Keys are listed as the vault has them. -/
theorem on_listKeys {path : String} {listing : Listing}
    (hunder : Endpoint.isUnderUsers path = false) (hlisting : h.listing? path = some listing) :
    (listKeys path).on (Holdings.gateway rest) (h, t) =
      (.ok (if listing.data.keys = [] then Listing.empty else listing.sorted), (h, t)) := by
  have htold : h.told? (.list path) =
      some (if listing.data.keys = [] then Holdings.nothing else ⟨200, listing.toJson⟩) := by
    simp only [Holdings.told?, Request.list, hlisting, Option.map_some]
  have hanswer := Holdings.gateway_told rest h t hunder htold
  by_cases hempty : listing.data.keys = []
  · rw [if_pos hempty] at hanswer ⊢
    rw [listKeys, Action.on_bind_of_ok _ ((Action.on_request _ _ _).trans hanswer),
      if_pos (show Holdings.nothing.status = 404 from rfl)]
    rfl
  · rw [if_neg hempty] at hanswer ⊢
    have hread : Response.read Listing.ofJson ⟨200, listing.toJson⟩ = .ok listing.sorted :=
      Response.read_of_ok (Listing.ofJson_toJson listing)
    rw [listKeys, Action.on_bind_of_ok _ ((Action.on_request _ _ _).trans hanswer),
      if_neg (show ¬200 = 404 by decide), Action.on_ofExcept, hread]

/-- A value is read as the vault has it. -/
theorem on_getValue {α : Type} {decode : Json → Except Mismatch α} {path : String}
    {members : Json.Members} {a : α} (hunder : Endpoint.isUnderUsers path = false)
    (hvalue : h.value? path = some (.obj members)) (hdecode : decode (.obj members) = .ok a) :
    (getValue decode path).on (Holdings.gateway rest) (h, t) = (.ok a, (h, t)) := by
  have htold : h.told? (.get path) = some ⟨200, .obj members⟩ := by
    simp only [Holdings.told?, Request.get, hvalue, Option.map_some]
  have hanswer := Holdings.gateway_told rest h t hunder htold
  rw [getValue, Action.on_bind_of_ok _ ((Action.on_request _ _ _).trans hanswer),
    Action.on_ofExcept, Response.read_of_ok hdecode]

/-- The keys of a listing, if there are any. -/
theorem keys_ite (listing : Listing) :
    (if listing.data.keys = [] then Listing.empty else listing.sorted).data.keys =
      listing.data.keys := by
  by_cases hempty : listing.data.keys = []
  · rw [if_pos hempty, hempty]
    rfl
  · rw [if_neg hempty]
    rfl

theorem on_listUsers :
    listUsers.on (Holdings.gateway rest) (h, t) = (.ok (h.users.map (·.1)), (h, t)) := by
  have hlisting : h.listing? Endpoint.users = some h.userListing := rfl
  rw [listUsers, Action.on_bind_of_ok _ (on_listKeys rest h t (by decide) hlisting),
    Action.on_pure, keys_ite]
  rfl

/-- A user that exists is read as the vault has it. -/
theorem on_getUser {name : String} {a : UserAnswer}
    (hpath : Endpoint.user name "" = .ok (Endpoint.userPath name)) (ha : h.user? name = some a) :
    (getUser name).on (Holdings.gateway rest) (h, t) = (.ok (a.record name), (h, t)) := by
  have hanswer := Holdings.gateway_get_user rest h t name
  rw [ha] at hanswer
  have hread : Response.read UserAnswer.ofJson ⟨200, a.toJson⟩ = .ok a :=
    Response.read_of_ok (UserAnswer.ofJson_toJson a)
  have hvalue : (getValue UserAnswer.ofJson (Endpoint.userPath name)).on (Holdings.gateway rest)
      (h, t) = (.ok a, (h, t)) := by
    rw [getValue, Action.on_bind_of_ok _ ((Action.on_request _ _ _).trans hanswer),
      Action.on_ofExcept, hread]
  rw [getUser, hpath, Action.on_bind_of_ok _ (Action.on_ofExcept _ _ _),
    Action.on_bind_of_ok _ hvalue, Action.on_pure]

theorem on_userPolicies {name : String} {a : UserAnswer}
    (hpath : Endpoint.user name "" = .ok (Endpoint.userPath name)) (ha : h.user? name = some a) :
    (userPolicies name).on (Holdings.gateway rest) (h, t) = (.ok a.data.policyList, (h, t)) := by
  rw [userPolicies, Action.on_bind_of_ok _ (on_getUser rest h t hpath ha), Action.on_pure]
  rfl

/-- The roles of a source, as the vault lists them. -/
def Holdings.roles (h : Holdings) (source : RoleSource) : List RoleRecord :=
  let listing := match source with
    | .approle => h.approleRoles
    | .token => h.tokenRoles
  listing.data.keys.map fun name => ⟨name, source, listing.mountType⟩

theorem map_ite_sorted (listing : Listing) (source : RoleSource) :
    ((if listing.data.keys = [] then Listing.empty else listing.sorted).data.keys.map
      fun name => (⟨name, source,
        (if listing.data.keys = [] then Listing.empty else listing.sorted).mountType⟩ :
          RoleRecord)) =
      listing.data.keys.map fun name => ⟨name, source, listing.mountType⟩ := by
  by_cases hempty : listing.data.keys = []
  · rw [if_pos hempty, hempty]
    rfl
  · rw [if_neg hempty]
    rfl

theorem on_listRoles (source : RoleSource) :
    (listRoles source).on (Holdings.gateway rest) (h, t) = (.ok (h.roles source), (h, t)) := by
  cases source with
  | approle =>
    have hlisting : h.listing? Endpoint.approleRoles = some h.approleRoles := rfl
    rw [listRoles, Action.on_bind_of_ok _ (on_listKeys rest h t (by decide) hlisting),
      Action.on_pure, map_ite_sorted]
    rfl
  | token =>
    have hlisting : h.listing? Endpoint.tokenRoles = some h.tokenRoles := rfl
    rw [listRoles, Action.on_bind_of_ok _ (on_listKeys rest h t (by decide) hlisting),
      Action.on_pure, map_ite_sorted]
    rfl

/-- The policies, as the vault lists them. -/
def Holdings.policyRecords (h : Holdings) : List PolicyRecord :=
  h.policies.names.map fun name => ⟨name, h.policies.mountType⟩

theorem on_listPolicies :
    listPolicies.on (Holdings.gateway rest) (h, t) = (.ok h.policyRecords, (h, t)) := by
  have hvalue : h.value? Endpoint.policies = some h.policies.toJson := rfl
  rw [listPolicies, Action.on_bind_of_ok _ (on_getValue rest h t (by decide) hvalue
    (PolicyListing.ofJson_toJson h.policies))]
  rfl

theorem on_listSecretMounts :
    listSecretMounts.on (Holdings.gateway rest) (h, t) = (.ok h.mounts.sorted.records, (h, t)) := by
  have hvalue : h.value? Endpoint.mounts = some h.mounts.toJson := rfl
  rw [listSecretMounts, Action.on_bind_of_ok _ (on_getValue rest h t (by decide) hvalue
    (MountTable.ofJson_toJson h.mounts))]
  rfl

theorem on_listAuthMethods :
    listAuthMethods.on (Holdings.gateway rest) (h, t) =
      (.ok h.authMethods.sorted.records, (h, t)) := by
  have hvalue : h.value? Endpoint.authMethods = some h.authMethods.toJson := rfl
  rw [listAuthMethods, Action.on_bind_of_ok _ (on_getValue rest h t (by decide) hvalue
    (MountTable.ofJson_toJson h.authMethods))]
  rfl

theorem records_ite (listing : Listing) :
    (if listing.data.keys = [] then Listing.empty else listing.sorted).data.records =
      listing.data.sorted.records := by
  by_cases hempty : listing.data.keys = []
  · have hkeys : listing.data.sorted.keys = [] := hempty
    rw [if_pos hempty, KeyList.records, KeyList.records, hkeys]
    rfl
  · rw [if_neg hempty]
    rfl

theorem on_listGroups :
    listGroups.on (Holdings.gateway rest) (h, t) =
      (.ok h.groups.data.sorted.records, (h, t)) := by
  have hlisting : h.listing? Endpoint.groups = some h.groups := rfl
  rw [listGroups, Action.on_bind_of_ok _ (on_listKeys rest h t (by decide) hlisting),
    Action.on_pure, records_ite]

theorem on_listEntities :
    listEntities.on (Holdings.gateway rest) (h, t) =
      (.ok h.entities.data.sorted.records, (h, t)) := by
  have hlisting : h.listing? Endpoint.entities = some h.entities := rfl
  rw [listEntities, Action.on_bind_of_ok _ (on_listKeys rest h t (by decide) hlisting),
    Action.on_pure, records_ite]

end VaultAccess.Vault
