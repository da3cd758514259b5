import VaultAccess.Proofs.Documents
import VaultAccess.Proofs.Json.Layout

/-!
# Settings are told by their text

Settings that differ are written as different JSON values, and as none of these has a floating point
number, their indented texts differ too.
-/
namespace VaultAccess

open Json

theorem BackendKind.name_injective : Function.Injective BackendKind.name := by
  intro k l h
  have hk := ofName?_name k
  rw [h, ofName?_name] at hk
  exact (Option.some.inj hk).symm

theorem Json.ofTexts_injective : Function.Injective ofTexts := by
  intro texts others h
  refine (List.map_inj_right ?_).mp (Json.obj.inj h)
  rintro ⟨key, text⟩ ⟨key', text'⟩ hmember
  obtain ⟨rfl, htext⟩ := Prod.mk.inj hmember
  exact congrArg (Prod.mk key) (Json.str.inj htext)

theorem Backend.toJson_injective : Function.Injective Backend.toJson := by
  intro b b' h
  obtain ⟨path, kind, engine, description, options⟩ := b
  obtain ⟨path', kind', engine', description', options'⟩ := b'
  -- Description and options have no member where there is nothing to write.
  cases description <;> cases description' <;> by_cases hnone : options = [] <;>
    by_cases hnone' : options' = [] <;>
      simp_all [toJson, BackendKind.name_injective.eq_iff, ofTexts_injective.eq_iff]

theorem Settings.toJson_injective : Function.Injective Settings.toJson := by
  rintro ⟨vault, sync, backends, logging⟩ ⟨vault', sync', backends', logging'⟩ h
  simp only [toJson, members, Json.obj.injEq, List.cons.injEq, Prod.mk.injEq, Json.arr.injEq,
    true_and, and_true] at h
  obtain ⟨hvault, hsync, hbackends, hlogging⟩ := h
  obtain rfl := injective_of_read (VaultSettings.read_arranged arranges_id) hvault
  obtain rfl := injective_of_read (SyncSettings.read_arranged arranges_id) hsync
  obtain rfl := (List.map_inj_right fun _ _ hb => Backend.toJson_injective hb).mp hbackends
  obtain rfl := injective_of_read (LogSettings.read_arranged arranges_id) hlogging
  rfl

theorem Json.isWhole_ofTexts (texts : List (String × String)) : (ofTexts texts).IsWhole := by
  refine .obj fun m hm => ?_
  obtain ⟨text, -, rfl⟩ := List.mem_map.mp hm
  exact .str _

theorem Backend.isWhole_toJson (b : Backend) : b.toJson.IsWhole := by
  refine .obj (List.forall_mem_append.mpr ⟨List.forall_mem_append.mpr ⟨?_, ?_⟩, ?_⟩)
  · simp [IsWhole.str]
  · split <;> simp [IsWhole.str]
  · split <;> simp [isWhole_ofTexts]

theorem Json.isWhole_orNull (s : Option String) : (orNull .str s).IsWhole := by
  cases s with
  | none => exact .null
  | some text => exact .str text

theorem VaultSettings.isWhole_toJson (s : VaultSettings) : s.toJson.IsWhole := by
  rw [toJson_eq]
  refine .obj ?_
  simp [IsWhole.str, isWhole_orNull, ofNat, IsWhole.int]

theorem Settings.isWhole_toJson (s : Settings) : s.toJson.IsWhole := by
  have hsync : s.sync.toJson.IsWhole := .obj (by simp [ofNat, IsWhole.int])
  have hbackends : (Json.arr (s.backends.map Backend.toJson)).IsWhole := by
    refine .arr fun v hv => ?_
    obtain ⟨b, -, rfl⟩ := List.mem_map.mp hv
    exact b.isWhole_toJson
  have hlogging : s.logging.toJson.IsWhole := .obj (by simp [IsWhole.str, IsWhole.bool])
  refine .obj ?_
  simp [members, s.vault.isWhole_toJson, hsync, hbackends, hlogging]

/-- Settings are told by their indented text. -/
theorem Settings.eq_of_toPrettyText {s t : Settings}
    (h : s.toJson.toPrettyText = t.toJson.toPrettyText) : s = t :=
  toJson_injective (toPrettyText_injOn s.isWhole_toJson t.isWhole_toJson h)

end VaultAccess
