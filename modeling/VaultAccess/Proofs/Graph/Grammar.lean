import VaultAccess.Proofs.Graph.Ids
import VaultAccess.Proofs.Lookup

/-!
# Texts that are ids

A text is an id if it has the right number of fields and none of them is empty, its kinds are names
of kinds and its names stand for texts. Such a text need not be the one that is printed: escapes
may have small digits, and what needs one may stand for itself. Printing what was read gives a text
that is read as the same, so it is settled after one round.
-/
namespace VaultAccess

open Text

/-! ## Fields -/

/-- Fields hold no separator. -/
theorem Text.not_mem_of_mem_fields {sep : Char} {cs f : List Char} (h : f ∈ fields sep cs) :
    sep ∉ f := by
  induction cs generalizing f with
  | nil =>
    obtain rfl := List.mem_singleton.mp h
    exact List.not_mem_nil
  | cons c cs ih =>
    obtain ⟨first, others, hfields⟩ := List.exists_cons_of_ne_nil (fields_ne_nil sep cs)
    rw [hfields] at ih
    simp only [fields, hfields] at h
    by_cases hc : c = sep
    · rw [if_pos hc] at h
      rcases List.mem_cons.mp h with rfl | h
      · exact List.not_mem_nil
      · exact ih h
    · rw [if_neg hc] at h
      rcases List.mem_cons.mp h with rfl | h
      · have hfirst := ih List.mem_cons_self
        exact fun hmem => (List.mem_cons.mp hmem).elim (fun heq => hc heq.symm) hfirst
      · exact ih (List.mem_cons_of_mem _ h)

/-- A field is empty as a text if it is empty as a list. -/
theorem Text.empty_mem_map_ofList {parts : List (List Char)} :
    "" ∈ parts.map String.ofList ↔ [] ∈ parts := by
  constructor
  · intro h
    obtain ⟨cs, hcs, hempty⟩ := List.mem_map.mp h
    obtain rfl : cs = [] := by simpa using congrArg String.toList hempty
    exact hcs
  · exact fun h => List.mem_map.mpr ⟨[], h, rfl⟩

/-- Parts of a text are fields if they are as lists. -/
theorem Text.map_ofList_eq_iff {parts : List (List Char)} {texts : List String} :
    parts.map String.ofList = texts ↔ parts = texts.map String.toList := by
  constructor
  · rintro rfl
    simp [Function.comp_def]
  · rintro rfl
    simp [Function.comp_def]

/-! ## Resources -/

theorem Kind.ofName?_eq_some_iff {text : String} {k : Kind} :
    ofName? text = some k ↔ text = k.name := by
  constructor
  · intro h
    unfold ofName? at h
    have hname := List.find?_some h
    exact (eq_of_beq hname).symm
  · rintro rfl
    exact ofName?_name k

namespace ResourceId

/-- Two fields that name a resource: the name of its kind, and a form that stands for its name. -/
def NamedBy (id : ResourceId) (kind name : String) : Prop :=
  kind = id.kind.name ∧ Percent.StandsFor (Utf8.encode name) (Utf8.encode id.name)

theorem ofFields_eq_ok_iff {kind name : List Char} {id : ResourceId} :
    ofFields kind name = .ok id ↔ id.NamedBy (String.ofList kind) (String.ofList name) := by
  obtain ⟨k, n⟩ := id
  unfold ofFields NamedBy
  rw [← Kind.ofName?_eq_some_iff, ← Percent.decode_eq_ok_iff, Kind.parse]
  cases Kind.ofName? (String.ofList kind) with
  | none => simp
  | some k =>
    cases Percent.decode (String.ofList name) with
    | error f => simp
    | ok n => simp

/-- A form that is not empty stands for a name that is not. -/
theorem NamedBy.name_ne_empty {id : ResourceId} {kind name : String} (h : id.NamedBy kind name)
    (hname : name ≠ "") : id.name ≠ "" := by
  intro hempty
  have hnil : Utf8.encode id.name = [] := by rw [hempty]; rfl
  have hform : Utf8.encode name = Utf8.encode "" := h.2.eq_nil_iff.mp hnil
  exact hname (Utf8.encode_injective hform)

end ResourceId

/-! ## Entitlements -/

namespace Entitlement

/-- A text is the id of a resource and a slug if it has three fields, none of them empty, the first
two of which name the resource. -/
theorem parseId_eq_ok_iff {text : String} {resource : ResourceId} {slug : String} :
    parseId text = .ok (resource, slug) ↔
      ∃ kind name : String,
        (fields ':' text.toList).map String.ofList = [kind, name, slug] ∧
          "" ∉ [kind, name, slug] ∧ resource.NamedBy kind name := by
  rw [parseId]
  split
  · next kind name slug' hfields =>
    have hempty : (kind = [] ∨ name = [] ∨ slug' = []) ↔
        "" ∈ [kind, name, slug'].map String.ofList := by
      rw [empty_mem_map_ofList]
      simp [eq_comm]
    rw [hfields]
    constructor
    · intro h
      split at h
      · cases h
      next hne =>
      rw [hempty] at hne
      cases hread : ResourceId.ofFields kind name with
      | error e =>
        rw [hread] at h
        cases h
      | ok r =>
        rw [hread] at h
        cases h
        exact ⟨_, _, rfl, hne, ResourceId.ofFields_eq_ok_iff.mp hread⟩
    · rintro ⟨_, _, hparts, hne, hnamed⟩
      cases hparts
      rw [if_neg (mt hempty.mp hne), ResourceId.ofFields_eq_ok_iff.mpr hnamed]
      rfl
  · next hfields =>
    refine ⟨fun h => ?_, ?_⟩
    · cases h
    · rintro ⟨kind, name, hparts, -⟩
      exact absurd (map_ofList_eq_iff.mp hparts) (hfields _ _ _)

/-- An id whose slug has no colon has three fields. -/
theorem fields_id_of_not_mem {e : Entitlement} (h : ':' ∉ e.slug.toList) :
    fields ':' e.id.toList =
      [e.resource.kind.name.toList, (Percent.encode e.resource.name).toList, e.slug.toList] := by
  have hid : e.id.toList = e.resource.kind.name.toList ++ ':' ::
      ((Percent.encode e.resource.name).toList ++ ':' :: e.slug.toList) := by
    simp [id, ResourceId.toList_segment]
  rw [hid, fields_append_cons ':' _ _ (ResourceId.not_mem_name _),
    fields_append_cons ':' _ _ (ResourceId.not_mem_encode _), fields_eq_singleton ':' _ h]

/-- A resource and a slug are read back from an id in which no field is empty and the slug has no
colon. -/
theorem parseId_id {e : Entitlement} (hname : e.resource.name ≠ "") (hslug : e.slug ≠ "")
    (hcolon : ':' ∉ e.slug.toList) : parseId e.id = .ok (e.resource, e.slug) := by
  have hfields : (fields ':' e.id.toList).map String.ofList =
      [e.resource.kind.name, Percent.encode e.resource.name, e.slug] := by
    rw [map_ofList_eq_iff, fields_id_of_not_mem hcolon]
    rfl
  refine parseId_eq_ok_iff.mpr ⟨_, _, hfields, ?_, rfl,
    Percent.decode_eq_ok_iff.mp (Percent.decode_encode _)⟩
  simp only [List.mem_cons, List.not_mem_nil, or_false, not_or]
  exact ⟨Ne.symm (ResourceId.name_ne_empty _),
    fun hempty => hname ((ResourceId.encode_eq_empty_iff _).mp hempty.symm), Ne.symm hslug⟩

/-- What is read from an id has a name and a slug, and the slug has no colon. -/
theorem plain_of_parseId {text slug : String} {resource : ResourceId}
    (h : parseId text = .ok (resource, slug)) :
    resource.name ≠ "" ∧ slug ≠ "" ∧ ':' ∉ slug.toList := by
  obtain ⟨kind, name, hparts, hne, hnamed⟩ := parseId_eq_ok_iff.mp h
  have hmem : slug.toList ∈ fields ':' text.toList := by
    rw [map_ofList_eq_iff.mp hparts]
    simp
  simp only [List.mem_cons, List.not_mem_nil, or_false, not_or] at hne
  obtain ⟨-, hname, hslug⟩ := hne
  exact ⟨hnamed.name_ne_empty (Ne.symm hname), Ne.symm hslug, not_mem_of_mem_fields hmem⟩

/-- What is read from an id is read again from the id of its entitlement. -/
theorem parseId_id_of_parseId {text slug : String} {resource : ResourceId}
    (h : parseId text = .ok (resource, slug)) (shown : String) :
    parseId (describe resource shown slug).id = .ok (resource, slug) := by
  obtain ⟨hname, hslug, hcolon⟩ := plain_of_parseId h
  exact parseId_id (e := describe resource shown slug) hname hslug hcolon

end Entitlement

/-! ## Grants -/

namespace Grant

/-- A text is the id of a grant if it has five fields, none of them empty: two that name the
resource, the slug, and two that name the principal. -/
theorem parseId_eq_ok_iff {text : String} {g : Grant} :
    parseId text = .ok g ↔
      ∃ kind name holderKind holder : String,
        (fields ':' text.toList).map String.ofList = [kind, name, g.slug, holderKind, holder] ∧
          "" ∉ [kind, name, g.slug, holderKind, holder] ∧
          g.entitlement.NamedBy kind name ∧ g.principal.NamedBy holderKind holder := by
  rw [parseId]
  split
  · next kind name slug holderKind holder hfields =>
    have hempty : (kind = [] ∨ name = [] ∨ slug = [] ∨ holderKind = [] ∨ holder = []) ↔
        "" ∈ [kind, name, slug, holderKind, holder].map String.ofList := by
      rw [empty_mem_map_ofList]
      simp [eq_comm]
    rw [hfields]
    constructor
    · intro h
      split at h
      · cases h
      next hne =>
      rw [hempty] at hne
      split at h
      · cases h
      next entitlement hentitlement =>
      cases hholder : ResourceId.ofFields holderKind holder with
      | error e =>
        rw [hholder] at h
        cases h
      | ok principal =>
        rw [hholder] at h
        cases h
        exact ⟨_, _, _, _, rfl, hne, ResourceId.ofFields_eq_ok_iff.mp hentitlement,
          ResourceId.ofFields_eq_ok_iff.mp hholder⟩
    · rintro ⟨_, _, _, _, hparts, hne, hentitlement, hprincipal⟩
      obtain ⟨entitlement, _, principal⟩ := g
      cases hparts
      rw [if_neg (mt hempty.mp hne), ResourceId.ofFields_eq_ok_iff.mpr hentitlement,
        ResourceId.ofFields_eq_ok_iff.mpr hprincipal]
      rfl
  · next hfields =>
    refine ⟨fun h => ?_, ?_⟩
    · cases h
    · rintro ⟨kind, name, holderKind, holder, hparts, -⟩
      exact absurd (map_ofList_eq_iff.mp hparts) (hfields _ _ _ _ _)

/-- What is read from an id has a plain id of its own. -/
theorem hasPlainId_of_parseId {text : String} {g : Grant} (h : parseId text = .ok g) :
    g.HasPlainId := by
  obtain ⟨kind, name, holderKind, holder, hparts, hne, hentitlement, hprincipal⟩ :=
    parseId_eq_ok_iff.mp h
  simp only [List.mem_cons, List.not_mem_nil, or_false, not_or] at hne
  obtain ⟨-, hname, hslug, -, hholder⟩ := hne
  have hmem : g.slug.toList ∈ fields ':' text.toList := by
    rw [map_ofList_eq_iff.mp hparts]
    simp
  exact ⟨hentitlement.name_ne_empty (Ne.symm hname), hprincipal.name_ne_empty (Ne.symm hholder),
    Ne.symm hslug, not_mem_of_mem_fields hmem⟩

end Grant

/-- Which texts are ids, and that printing settles them. A text is an id of a grant, or of an
entitlement, exactly if it has five fields, or three, none of them empty, whose kinds are names of
kinds and whose names stand for texts. What is read from it has names and a slug that are not empty
and no colon in the slug, and is read again from the id that is printed for it. So reading and
printing an id twice gives what doing it once gives. -/
theorem accepted_ids_settle :
    (∀ (text : String) (g : Grant), Grant.parseId text = .ok g ↔
      ∃ kind name holderKind holder : String,
        (fields ':' text.toList).map String.ofList = [kind, name, g.slug, holderKind, holder] ∧
          "" ∉ [kind, name, g.slug, holderKind, holder] ∧
          g.entitlement.NamedBy kind name ∧ g.principal.NamedBy holderKind holder) ∧
    (∀ (text slug : String) (resource : ResourceId),
      Entitlement.parseId text = .ok (resource, slug) ↔
        ∃ kind name : String,
          (fields ':' text.toList).map String.ofList = [kind, name, slug] ∧
            "" ∉ [kind, name, slug] ∧ resource.NamedBy kind name) ∧
    (∀ text g, Grant.parseId text = .ok g →
      (g.entitlement.name ≠ "" ∧ g.principal.name ≠ "" ∧ g.slug ≠ "" ∧ ':' ∉ g.slug.toList) ∧
        Grant.parseId g.id = .ok g) ∧
    (∀ text pair, Entitlement.parseId text = .ok pair →
      ∃ e, Entitlement.ofId text = .ok e ∧ Entitlement.parseId e.id = .ok pair) ∧
    (∀ text printed, (Grant.parseId text).map Grant.id = .ok printed →
      (Grant.parseId printed).map Grant.id = .ok printed) ∧
    ∀ text printed, (Entitlement.ofId text).map Entitlement.id = .ok printed →
      (Entitlement.ofId printed).map Entitlement.id = .ok printed := by
  refine ⟨fun _ _ => Grant.parseId_eq_ok_iff, fun _ _ _ => Entitlement.parseId_eq_ok_iff,
    fun text g h => ?_, fun text pair h => ?_, fun text printed h => ?_, fun text printed h => ?_⟩
  · have hplain := Grant.hasPlainId_of_parseId h
    exact ⟨hplain, Grant.parseId_id hplain⟩
  · refine ⟨_, ?_, Entitlement.parseId_id_of_parseId h pair.1.name⟩
    rw [Entitlement.ofId, h]
    rfl
  · cases hread : Grant.parseId text with
    | error e =>
      rw [hread] at h
      cases h
    | ok g =>
      rw [hread] at h
      cases h
      rw [Grant.parseId_id (Grant.hasPlainId_of_parseId hread)]
      rfl
  · cases hread : Entitlement.parseId text with
    | error e =>
      rw [Entitlement.ofId, hread] at h
      cases h
    | ok pair =>
      rw [Entitlement.ofId, hread] at h
      cases h
      rw [Entitlement.ofId, Entitlement.parseId_id_of_parseId hread]
      rfl

/-- A grant and an entitlement whose ids have small digits, a blank, a plus sign and signs that open
no escape. -/
theorem accepted_ids_settle_of_loose :
    let g : Grant := ⟨⟨.policy, "a/b c%zz"⟩, "x+y", ⟨.user, "éé%"⟩⟩
    let printed := "policy:a%2Fb%20c%25zz:x+y:user:%C3%A9%C3%A9%25"
    Grant.parseId "policy:a%2fb c%zz:x+y:user:%C3%a9é%" = .ok g ∧ g.id = printed ∧
      Grant.parseId printed = .ok g ∧
      (Grant.parseId printed).map Grant.id = .ok printed ∧
      Entitlement.parseId "role:%e2%82%ac%:a" = .ok (⟨.role, "€%"⟩, "a") ∧
      (∃ e, Entitlement.ofId "role:%e2%82%ac%:a" = .ok e ∧
        Entitlement.parseId e.id = .ok (⟨.role, "€%"⟩, "a")) ∧
      (Entitlement.ofId "role:%E2%82%AC%25:a").map Entitlement.id = .ok "role:%E2%82%AC%25:a" := by
  intro g printed
  have hread : Grant.parseId "policy:a%2fb c%zz:x+y:user:%C3%a9é%" = .ok g :=
    ok_of_toOption (by decide +kernel)
  have hprinted : g.id = printed := by decide +kernel
  have hpair : Entitlement.parseId "role:%e2%82%ac%:a" = .ok (⟨.role, "€%"⟩, "a") :=
    ok_of_toOption (by decide +kernel)
  have hdescribed : (Entitlement.ofId "role:%e2%82%ac%:a").map Entitlement.id =
      .ok "role:%E2%82%AC%25:a" := ok_of_toOption (by decide +kernel)
  obtain ⟨-, -, hgrants, hentitlements, hsettled, hsettled'⟩ := accepted_ids_settle
  refine ⟨hread, hprinted, hprinted ▸ (hgrants _ g hread).2, ?_, hpair,
    hentitlements _ _ hpair, hsettled' _ _ hdescribed⟩
  exact hsettled _ _ (by rw [hread, Except.map, hprinted])

end VaultAccess
