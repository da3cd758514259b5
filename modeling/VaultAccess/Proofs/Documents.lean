import Mathlib.Data.Set.Function
import VaultAccess.Graph.Document
import VaultAccess.Proofs.Json.Arrangement
import VaultAccess.Proofs.Vault.Bodies
import VaultAccess.Settings.Basic

/-!
# Documents that are read back

The resource graph, cursors, backends and settings are written as JSON values. Reading gives back
what was written, in whatever order objects list their members, so different values are written
differently.
-/
namespace VaultAccess

open Decode Json

variable {α β : Type} {f : Json → Json}

/-- What can be read back is written injectively. -/
theorem injOn_of_read {write : α → Json} {read : Json → Except Mismatch α} {values : Set α}
    (h : ∀ a ∈ values, read (write a) = .ok a) : Set.InjOn write values := by
  intro a ha b hb heq
  have hread := h a ha
  rw [heq, h b hb] at hread
  exact (Except.ok.inj hread).symm

theorem injective_of_read {write : α → Json} {read : Json → Except Mismatch α}
    (h : ∀ a, read (write a) = .ok a) : Function.Injective write :=
  Set.injOn_univ.mp (injOn_of_read fun a _ => h a)

theorem mapM_read {write : α → Json} {read : Json → Except Mismatch β} {g : α → β}
    {items : List α} (h : ∀ a ∈ items, read (write a) = .ok (g a)) :
    (items.map write).mapM read = .ok (items.map g) := by
  induction items with
  | nil => rfl
  | cons a rest ih =>
    have hfirst := h a List.mem_cons_self
    have hrest := ih fun b hb => h b (List.mem_cons_of_mem a hb)
    simp [hfirst, hrest, bind, Except.bind, pure, Except.pure]

/-! ## Names -/

@[simp] theorem UserStatus.ofName?_name (u : UserStatus) : ofName? u.name = some u := by
  cases u <;> decide

@[simp] theorem BackendKind.ofName?_name (k : BackendKind) : ofName? k.name = some k := by
  cases k <;> decide

@[simp] theorem LogLevel.ofName?_name (l : LogLevel) : ofName? l.name = some l := by
  cases l <;> decide

/-- A name is read as what it names. -/
theorem oneOf_str {ofName? : String → Option α} {a : α} {s : String} (names : List String)
    (h : ofName? s = some a) : dialect.oneOf names ofName? (.str s) = .ok a := by
  simp [Dialect.oneOf, dialect, readChoice, h, Except.map]

/-- A list is read back if its items are. -/
theorem Json.Arranges.listOf (hf : Arranges f) {write : α → Json}
    {read : Json → Except Mismatch α} {items : List α}
    (h : ∀ a ∈ items, read (f (write a)) = .ok a) :
    dialect.listOf read (f (.arr (items.map write))) = .ok items := by
  have hitems : (items.map fun a => f (write a)).mapM read = .ok (items.map id) := mapM_read h
  rw [hf.arr, List.map_map]
  simpa [Dialect.listOf, dialect, Function.comp_def] using hitems

/-! ## The resource graph -/

theorem readKind_str (k : Kind) : Paging.readKind dialect (.str k.name) = .ok k :=
  oneOf_str _ (Kind.ofName?_name k)

/-- An object stands for something. -/
theorem Json.Arranges.isNothing_obj (hf : Arranges f) {members : Members}
    (hkeys : (members.map (·.1)).Nodup) : dialect.isNothing (f (.obj members)) = false := by
  obtain ⟨arranged, hobj, -⟩ := hf.obj hkeys
  rw [hobj]
  rfl

theorem ResourceId.read_arranged (hf : Arranges f) (id : ResourceId) :
    read dialect (f id.toJson) = .ok id := by
  refine hf.ofRecord (by simp) ?_
  simp [hf.str, Dialect.ofRecord, required, Record.start, Record.field, firstFault,
    List.lookup_cons, Except.map, bind, Except.bind, pure, Except.pure, readKind_str]

namespace Traits

variable {members arranged : Members} {t : Traits}

/-- The name of the variant. -/
def tag : Traits → String
  | user _ _ => "user"
  | role _ => "role"
  | app _ => "app"
  | group _ => "group"

/-- What a variant is written with beside its name. -/
def fields : Traits → Members
  | user status profile => [("status", .str status.name), ("profile", .obj profile)]
  | role profile | app profile | group profile => [("profile", .obj profile)]

theorem toJson_eq (t : Traits) : t.toJson = .obj (("trait", .str t.tag) :: t.fields) := by
  cases t <;> rfl

theorem tag_mem_names (t : Traits) : t.tag ∈ names := by
  cases t <;> simp [tag, names]

theorem nodup_fields (t : Traits) : (t.fields.map (·.1)).Nodup := by
  cases t <;> simp [fields]

theorem trait_notMem_fields (t : Traits) : "trait" ∉ t.fields.map (·.1) := by
  cases t <;> simp [fields]

theorem readVariant_of_perm {name : String} (hperm : arranged.Perm members)
    (hkeys : (members.map (·.1)).Nodup) (h : readVariant name (.obj members) = .ok t) :
    readVariant name (.obj arranged) = .ok t := by
  have hread {items : Nat} {title : String} {r : Record Json Mismatch Traits}
      (h : (contents items).ofRecord title r (.obj members) = .ok t) :
      (contents items).ofRecord title r (.obj arranged) = .ok t :=
    Dialect.ofRecord_of_perm rfl rfl hperm hkeys h
  simp only [readVariant] at h ⊢
  by_cases huser : name = "user"
  · rw [if_pos huser] at h ⊢
    exact hread h
  · rw [if_neg huser] at h ⊢
    by_cases hrole : name = "role"
    · rw [if_pos hrole] at h ⊢
      exact hread h
    · rw [if_neg hrole] at h ⊢
      by_cases happ : name = "app"
      · rw [if_pos happ] at h ⊢
        exact hread h
      · rw [if_neg happ] at h ⊢
        exact hread h

/-- Where the tag stands among the members does not matter. -/
theorem ofJson_of_perm (hperm : arranged.Perm members) (hkeys : (members.map (·.1)).Nodup)
    (h : ofJson (.obj members) = .ok t) : ofJson (.obj arranged) = .ok t := by
  have htag := lookup_eq_of_perm hkeys hperm "trait"
  simp only [ofJson] at h ⊢
  rw [htag]
  cases htrait : members.lookup "trait" with
  | none => simp [htrait] at h
  | some tag =>
    simp only [htrait] at h ⊢
    cases hname : readTag tag with
    | error e => simp [hname] at h
    | ok name =>
      simp only [hname] at h ⊢
      refine readVariant_of_perm (hperm.filter _) ?_ h
      exact hkeys.sublist (List.filter_sublist.map _)

/-- Traits with the tag in front are read by the variant it names. -/
theorem ofJson_cons {name : String} (hname : name ∈ names)
    (hmembers : "trait" ∉ members.map (·.1)) :
    ofJson (.obj (("trait", .str name) :: members)) = readVariant name (.obj members) := by
  have hfilter : members.filter (fun m => m.1 ≠ "trait") = members := by
    refine List.filter_eq_self.mpr fun m hm => ?_
    simpa using fun heq => hmembers (List.mem_map.mpr ⟨m, hm, heq⟩)
  simp only [ne_eq, decide_not] at hfilter
  simp [ofJson, readTag, hname, hfilter]

@[simp] theorem contents_record (items : Nat) (name : String) (members : Members) :
    (contents items).record name (.obj members) = .ok (.named members) := rfl

theorem readStatus_str (items : Nat) (u : UserStatus) :
    readStatus (contents items) (.str u.name) = .ok u := by
  simp [readStatus, Dialect.oneOf, contents, readChoice, Except.map]

theorem readVariant_fields (hf : Arranges f) (hprofile : f (.obj t.profile) = .obj t.profile) :
    readVariant t.tag (.obj (t.fields.map fun m => (m.1, f m.2))) = .ok t := by
  have hread : readProfile (f (.obj t.profile)) = .ok t.profile := by
    rw [hprofile]
    rfl
  cases t with
  | user status profile =>
    simp only [Traits.profile] at hread
    simp [readVariant, tag, fields, hf.str, Dialect.ofRecord, required, Record.start,
      Record.field, firstFault, List.lookup_cons, Except.map, bind, Except.bind, pure,
      Except.pure, readStatus_str, hread]
  | role profile | app profile | group profile =>
    simp only [Traits.profile] at hread
    simp [readVariant, tag, fields, Dialect.ofRecord, required, Record.start, Record.field,
      firstFault, List.lookup_cons, Except.map, bind, Except.bind, pure, Except.pure, hread]

theorem ofJson_arranged (hf : Arranges f) (hprofile : f (.obj t.profile) = .obj t.profile) :
    ofJson (f t.toJson) = .ok t := by
  have hkeys : ((("trait", .str t.tag) :: t.fields : Members).map (·.1)).Nodup :=
    List.nodup_cons.mpr ⟨t.trait_notMem_fields, t.nodup_fields⟩
  obtain ⟨arranged, hobj, hperm⟩ := hf.obj hkeys
  rw [toJson_eq, hobj]
  refine ofJson_of_perm hperm (by rwa [List.map_map]) ?_
  rw [List.map_cons, hf.str, ofJson_cons t.tag_mem_names]
  · exact readVariant_fields hf hprofile
  · rw [List.map_map]
    exact t.trait_notMem_fields

end Traits

theorem ResourceId.optional_arranged (hf : Arranges f) (id : ResourceId) :
    dialect.optional (read dialect) (f id.toJson) = .ok (some id) := by
  have hthere : dialect.isNothing (f id.toJson) = false := hf.isNothing_obj (by simp)
  simp [Dialect.optional, hthere, read_arranged hf, Except.map]

theorem Resource.ofJson_arranged (hf : Arranges f) {r : Resource}
    (hprofile : f (.obj r.traits.profile) = .obj r.traits.profile) :
    ofJson (f r.toJson) = .ok r := by
  have htraits := Traits.ofJson_arranged hf hprofile
  obtain ⟨id, displayName, parent, traits⟩ := r
  cases parent with
  | none =>
    refine hf.ofRecord (by simp) ?_
    simp [hf.str, Dialect.ofRecord, required, Dialect.optionalField, Record.start, Record.field,
      firstFault, List.lookup_cons, Except.map, bind, Except.bind, pure, Except.pure,
      ResourceId.read_arranged hf, htraits]
  | some parent =>
    refine hf.ofRecord (by simp) ?_
    simp [hf.str, Dialect.ofRecord, required, Dialect.optionalField, Record.start, Record.field,
      firstFault, List.lookup_cons, Except.map, bind, Except.bind, pure, Except.pure,
      ResourceId.read_arranged hf, ResourceId.optional_arranged hf, htraits]

theorem Entitlement.ofJson_arranged (hf : Arranges f) (e : Entitlement) :
    ofJson (f e.toJson) = .ok e := by
  have hkinds : dialect.listOf (Paging.readKind dialect)
      (f (.arr (e.grantableTo.map fun k => .str k.name))) = .ok e.grantableTo := by
    refine hf.listOf fun k _ => ?_
    rw [hf.str, readKind_str]
  refine hf.ofRecord (by simp) ?_
  simp [hf.str, Dialect.ofRecord, required, Record.start, Record.field, firstFault,
    List.lookup_cons, Except.map, bind, Except.bind, pure, Except.pure,
    ResourceId.read_arranged hf, hkinds]

theorem Grant.ofJson_arranged (hf : Arranges f) (g : Grant) : ofJson (f g.toJson) = .ok g := by
  refine hf.ofRecord (by simp) ?_
  simp [hf.str, Dialect.ofRecord, required, Record.start, Record.field, firstFault,
    List.lookup_cons, Except.map, bind, Except.bind, pure, Except.pure,
    ResourceId.read_arranged hf]

/-! ## Cursors -/

namespace Paging

theorem readFrame_arranged (hf : Arranges f) (frame : Frame) :
    readFrame dialect (f frame.toJson) = .ok frame := by
  refine hf.ofRecord (by simp) ?_
  simp [hf.str, Dialect.ofRecord, required, withDefault, Record.start, Record.field, firstFault,
    List.lookup_cons, Except.map, bind, Except.bind, pure, Except.pure, readKind_str]

theorem readCursor_arranged (hf : Arranges f) (c : Cursor) :
    readCursor dialect (f c.toJson) = .ok c := by
  have hframes : dialect.listOf (readFrame dialect) (f (.arr (c.frames.map Frame.toJson))) =
      .ok c.frames := hf.listOf fun frame _ => readFrame_arranged hf frame
  refine hf.ofRecord (by simp) ?_
  simp [Dialect.ofRecord, required, Record.start, Record.field, firstFault, List.lookup_cons,
    Except.map, bind, Except.bind, pure, Except.pure, hframes]

end Paging

/-! ## Backends and settings -/

theorem readTable_of_forall {read : Json → Except Mismatch α} {g : Json → α} {members : Members}
    (h : ∀ m ∈ members, read m.2 = .ok (g m.2)) :
    Dialect.readTable read members = .ok (members.map fun m => (m.1, g m.2)) := by
  induction members with
  | nil => rfl
  | cons m rest ih =>
    have hfirst := h m List.mem_cons_self
    have hrest := ih fun n hn => h n (List.mem_cons_of_mem m hn)
    simp [Dialect.readTable, hfirst, hrest, Except.map]

/-- The text of a value that is one. -/
def Json.textOf (v : Json) : String := (dialect.text v).toOption.getD ""

/-- Ascending options are read from any order, to be put in order again. -/
theorem tableOf_arranged (hf : Arranges f) {options : List (String × String)}
    (h : Ascending options) :
    ∃ table, dialect.tableOf dialect.text (f (ofTexts options)) = .ok table ∧
      sortMembers table = options := by
  let written : Members := options.map fun m => (m.1, .str m.2)
  have hkeys : (written.map (·.1)).Nodup := by
    rw [List.map_map]
    exact h.nodup
  obtain ⟨arranged, hobj, hperm⟩ := hf.obj hkeys
  have hsame : written.map (fun m => (m.1, f m.2)) = written := by
    simp [written, hf.str]
  rw [hsame] at hperm
  have htexts : ∀ m ∈ arranged, dialect.text m.2 = .ok (textOf m.2) := by
    intro m hm
    obtain ⟨option, -, rfl⟩ := List.mem_map.mp (hperm.mem_iff.mp hm)
    rfl
  have hback : written.map (fun m => (m.1, textOf m.2)) = options := by
    rw [List.map_map]
    exact List.map_id options
  have hread : (arranged.map fun m => (m.1, textOf m.2)).Perm options :=
    hback ▸ hperm.map fun m => (m.1, textOf m.2)
  refine ⟨arranged.map fun m => (m.1, textOf m.2), ?_, sortMembers_of_perm h hread⟩
  rw [ofTexts, hobj]
  exact readTable_of_forall htexts

theorem Backend.readKind_str (k : BackendKind) : readKind dialect (.str k.name) = .ok k :=
  oneOf_str _ (BackendKind.ofName?_name k)

theorem Backend.read_arranged (hf : Arranges f) {b : Backend} (h : Ascending b.options) :
    read dialect (f b.toJson) = .ok b := by
  obtain ⟨table, htable, hsorted⟩ := tableOf_arranged hf h
  have hdescription (text : String) :
      dialect.optional dialect.text (.str text) = .ok (some text) := rfl
  obtain ⟨path, kind, engine, description, options⟩ := b
  -- Description and options each have a member only where there is something to write.
  refine hf.ofRecord ?_ ?_
  · cases description <;> by_cases hnone : options = [] <;> simp [hnone]
  · cases description <;> by_cases hnone : options = [] <;>
      simp [hnone, hf.str, Dialect.ofRecord, required, withDefault, Record.start, Record.field,
        firstFault, List.lookup_cons, Except.map, bind, Except.bind, pure, Except.pure,
        readKind_str, hdescription, htable, hsorted]

theorem Json.Arranges.word (hf : Arranges f) (name : String) (n : UInt64) :
    dialect.word name (f (ofNat n.toNat)) = .ok n := by
  rw [ofNat, hf.num]
  exact word_ofNat name n

theorem Json.Arranges.orNull_str (hf : Arranges f) (s : Option String) :
    f (orNull .str s) = orNull .str s := by
  cases s with
  | none => exact hf.null
  | some text => exact hf.str text

theorem VaultSettings.toJson_eq (s : VaultSettings) :
    s.toJson = .obj [("address", .str s.address), ("token", orNull .str s.token),
      ("namespace", orNull .str s.namespace), ("timeoutSecs", ofNat s.timeoutSecs.toNat)] := by
  obtain ⟨address, token, «namespace», timeoutSecs⟩ := s
  cases token <;> cases «namespace» <;> rfl

theorem VaultSettings.read_arranged (hf : Arranges f) (s : VaultSettings) :
    read dialect (f s.toJson) = .ok s := by
  rw [toJson_eq]
  refine hf.ofRecord (by simp) ?_
  simp [hf.str, hf.orNull_str, hf.word, Dialect.ofRecord, withDefault, Dialect.optionalField,
    Record.start, Record.field, firstFault, List.lookup_cons, Except.map, bind, Except.bind, pure,
    Except.pure]

theorem SyncSettings.read_arranged (hf : Arranges f) (s : SyncSettings) :
    read dialect (f s.toJson) = .ok s := by
  refine hf.ofRecord (by simp) ?_
  simp [hf.word, Dialect.ofRecord, withDefault, Record.start, Record.field, firstFault,
    List.lookup_cons, Except.map, bind, Except.bind, pure, Except.pure]

theorem LogSettings.readLevel_str (l : LogLevel) : readLevel dialect (.str l.name) = .ok l :=
  oneOf_str _ (LogLevel.ofName?_name l)

theorem LogSettings.read_arranged (hf : Arranges f) (s : LogSettings) :
    read dialect (f s.toJson) = .ok s := by
  refine hf.ofRecord (by simp) ?_
  simp [hf.str, hf.bool, Dialect.ofRecord, withDefault, Record.start, Record.field, firstFault,
    List.lookup_cons, Except.map, bind, Except.bind, pure, Except.pure, readLevel_str]

theorem Settings.read_arranged (hf : Arranges f) {s : Settings}
    (h : ∀ b ∈ s.backends, Ascending b.options) : read dialect (f s.toJson) = .ok s := by
  have hbackends : dialect.listOf (Backend.read dialect)
      (f (.arr (s.backends.map Backend.toJson))) = .ok s.backends :=
    hf.listOf fun b hb => Backend.read_arranged hf (h b hb)
  refine hf.ofRecord (by simp [members]) ?_
  simp [members, Dialect.ofRecord, withDefault, Record.start, Record.field, firstFault,
    List.lookup_cons, Except.map, bind, Except.bind, pure, Except.pure,
    VaultSettings.read_arranged hf, SyncSettings.read_arranged hf, hbackends,
    LogSettings.read_arranged hf]

/-- The data model survives being written. A resource, entitlement, grant, cursor, backend or part
of the settings is read back from its JSON value, in whatever order objects list their members,
given that the order leaves a resource's profile as it is and that options ascend, as a map keeps
them. So values that differ are written differently. -/
theorem documents_read_back :
    (∀ f, Arranges f →
      (∀ r : Resource, f (.obj r.traits.profile) = .obj r.traits.profile →
        Resource.ofJson (f r.toJson) = .ok r) ∧
      (∀ e : Entitlement, Entitlement.ofJson (f e.toJson) = .ok e) ∧
      (∀ g : Grant, Grant.ofJson (f g.toJson) = .ok g) ∧
      (∀ c : Paging.Cursor, Paging.readCursor dialect (f c.toJson) = .ok c) ∧
      (∀ b : Backend, Ascending b.options → Backend.read dialect (f b.toJson) = .ok b) ∧
      (∀ s : Settings, (∀ b ∈ s.backends, Ascending b.options) →
        Settings.read dialect (f s.toJson) = .ok s) ∧
      (∀ s : VaultSettings, VaultSettings.read dialect (f s.toJson) = .ok s) ∧
      (∀ s : SyncSettings, SyncSettings.read dialect (f s.toJson) = .ok s) ∧
      ∀ s : LogSettings, LogSettings.read dialect (f s.toJson) = .ok s) ∧
    Function.Injective Resource.toJson ∧
    Function.Injective Entitlement.toJson ∧
    Function.Injective Grant.toJson ∧
    Function.Injective Paging.Cursor.toJson ∧
    Set.InjOn Backend.toJson {b | Ascending b.options} ∧
    Set.InjOn Settings.toJson {s | ∀ b ∈ s.backends, Ascending b.options} ∧
    Function.Injective VaultSettings.toJson ∧
    Function.Injective SyncSettings.toJson ∧
    Function.Injective LogSettings.toJson := by
  constructor
  · intro f hf
    exact ⟨fun r h => Resource.ofJson_arranged hf h, Entitlement.ofJson_arranged hf,
      Grant.ofJson_arranged hf, Paging.readCursor_arranged hf,
      fun b h => Backend.read_arranged hf h, fun s h => Settings.read_arranged hf h,
      VaultSettings.read_arranged hf, SyncSettings.read_arranged hf,
      LogSettings.read_arranged hf⟩
  · refine ⟨injective_of_read fun r => Resource.ofJson_arranged arranges_id rfl,
      injective_of_read (Entitlement.ofJson_arranged arranges_id),
      injective_of_read (Grant.ofJson_arranged arranges_id),
      injective_of_read (Paging.readCursor_arranged arranges_id), ?_, ?_,
      injective_of_read (VaultSettings.read_arranged arranges_id),
      injective_of_read (SyncSettings.read_arranged arranges_id),
      injective_of_read (LogSettings.read_arranged arranges_id)⟩
    · exact injOn_of_read fun b h => Backend.read_arranged arranges_id h
    · exact injOn_of_read fun s h => Settings.read_arranged arranges_id h

/-- A user below a policy whose profile has a member with the name of the tag. -/
def taggedUser : Resource where
  id := ⟨.user, "ann"⟩
  displayName := "Ann"
  parent := some ⟨.policy, "ops"⟩
  traits := .user .disabled [("status", .obj [("a", .null), ("b", .bool true)]),
    ("trait", .str "role")]

/-- A backend with two options. -/
def cappedSecrets : Backend where
  path := "secret"
  kind := .secrets
  engine := "kv"
  description := some "keys"
  options := [("max_versions", "3"), ("version", "2")]

theorem documents_read_back_sorted :
    Arranges sorted ∧ Resource.ofJson taggedUser.toJson.sorted = .ok taggedUser ∧
      Backend.read dialect cappedSecrets.toJson.sorted = .ok cappedSecrets ∧
      Settings.read dialect { Settings.default with backends := [cappedSecrets] }.toJson.sorted =
        .ok { Settings.default with backends := [cappedSecrets] } := by
  have hascending : Ascending cappedSecrets.options := by
    exact List.pairwise_pair.mpr (by decide)
  obtain ⟨hresource, -, -, -, hbackend, hsettings, -⟩ :=
    documents_read_back.1 sorted arranges_sorted
  refine ⟨arranges_sorted, hresource _ ?_, hbackend _ hascending, hsettings _ ?_⟩
  · rfl
  · simpa using hascending

end VaultAccess
