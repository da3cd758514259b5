import VaultAccess.Proofs.Text.Percent
import VaultAccess.Proofs.Vault.Server

/-!
# Paths of users

The name of a user is one segment of a path, and no segment that leads elsewhere. Name and suffix
are told by the path, and no other path of the vault lies below the users.
-/
namespace VaultAccess.Vault.Endpoint

open Text

/-- What may follow the name of a user in a path. -/
def suffixes : List String := ["", "/policies"]

/-- The paths that name no user and no backend. -/
def fixed : List String :=
  [users, approleRoles, tokenRoles, policies, mounts, authMethods, groups, entities, lookupSelf]

theorem user_eq_ok_iff {name suffix path : String} :
    user name suffix = .ok path ↔ Holdings.IsSegment name ∧ path = userPath name ++ suffix := by
  constructor
  · intro h
    have hpath := user_ok h
    unfold user at h
    split at h
    · cases h
    · next hbad =>
      simp only [not_or] at hbad
      exact ⟨hbad, hpath⟩
  · rintro ⟨hname, rfl⟩
    have hplain := user_suffix suffix hname.user_ok
    exact hplain

theorem user_eq_error {name suffix : String} {e : Fault} (h : user name suffix = .error e) :
    ¬ Holdings.IsSegment name ∧ e = .invalidName name := by
  unfold user at h
  split at h
  · next hbad =>
    cases h
    refine ⟨fun hname => ?_, rfl⟩
    rcases hbad with hbad | hbad | hbad
    · exact hname.1 hbad
    · exact hname.2.1 hbad
    · exact hname.2.2 hbad
  · cases h

/-! ## The segment -/

/-- A name is the one that its text is decoded to. -/
theorem eq_of_encode_eq {name text other : String} (h : Percent.encode name = text)
    (hdecode : (Percent.decode text).toOption = some other) : name = other := by
  rw [← h, Percent.decode_encode] at hdecode
  exact Option.some.inj hdecode

theorem slash_not_mem_encode (name : String) : '/' ∉ (Percent.encode name).toList :=
  Percent.not_mem_encode (by decide) (by decide) name

/-- Written out, a name leads nowhere else as long as the name does not. -/
theorem isSegment_encode {name : String} (h : Holdings.IsSegment name) :
    Holdings.IsSegment (Percent.encode name) :=
  ⟨fun heq => h.1 (eq_of_encode_eq heq (by decide +kernel)),
    fun heq => h.2.1 (eq_of_encode_eq heq (by decide +kernel)),
    fun heq => h.2.2 (eq_of_encode_eq heq (by decide +kernel))⟩

/-! ## What a path tells -/

variable {name other segment suffix ending path : String}

theorem fields_segment_suffix (hslash : '/' ∉ segment.toList) (h : suffix ∈ suffixes) :
    fields '/' (segment.toList ++ suffix.toList) =
      segment.toList :: if suffix = "" then [] else ["policies".toList] := by
  rcases List.mem_cons.mp h with rfl | h
  · have hempty : "".toList = [] := rfl
    rw [hempty, List.append_nil, fields_eq_singleton '/' _ hslash]
    rfl
  · have hsuffix : suffix.toList = '/' :: "policies".toList := by
      rw [List.mem_singleton.mp h]
      rfl
    have hne : suffix ≠ "" := fun heq => absurd (heq ▸ h) (by decide)
    rw [hsuffix, fields_append_cons '/' _ _ hslash, if_neg hne]
    rfl

/-- Segment and suffix are told by the path that they make. -/
theorem segment_append_inj (hsegment : '/' ∉ segment.toList) (hother : '/' ∉ other.toList)
    (hsuffix : suffix ∈ suffixes) (hending : ending ∈ suffixes)
    (h : users ++ "/" ++ segment ++ suffix = users ++ "/" ++ other ++ ending) :
    segment = other ∧ suffix = ending := by
  have hlist := congrArg String.toList h
  simp only [String.toList_append, List.append_assoc, List.append_cancel_left_eq] at hlist
  have hfields := congrArg (fields '/') hlist
  rw [fields_segment_suffix hsegment hsuffix, fields_segment_suffix hother hending,
    List.cons.injEq] at hfields
  obtain ⟨heq, -⟩ := hfields
  rw [heq, List.append_cancel_left_eq] at hlist
  exact ⟨String.toList_inj.mp heq, String.toList_inj.mp hlist⟩

/-- That a path asks for a user: below the users there is one segment, written with plain characters
and escapes, which leads nowhere else and is decoded to the name. -/
structure NamesUser (name suffix path : String) : Prop where
  known : suffix ∈ suffixes
  written : ∃ segment, path = users ++ "/" ++ segment ++ suffix ∧
    Percent.Written segment.toList ∧ segment ≠ "" ∧ segment ≠ "." ∧ segment ≠ ".." ∧
    Percent.decode segment = .ok name

/-- The path of a user asks for that user. -/
theorem namesUser_userPath (hname : Holdings.IsSegment name) (hsuffix : suffix ∈ suffixes) :
    NamesUser name suffix (userPath name ++ suffix) := by
  obtain ⟨hempty, hhere, habove⟩ := isSegment_encode hname
  exact ⟨hsuffix, Percent.encode name, rfl, Percent.written_encode name, hempty, hhere, habove,
    Percent.decode_encode name⟩

/-- A path asks for one user at most, with one suffix. -/
theorem NamesUser.inj (h : NamesUser name suffix path) (hother : NamesUser other ending path) :
    name = other ∧ suffix = ending := by
  obtain ⟨segment, rfl, hwritten, -, -, -, hdecode⟩ := h.written
  obtain ⟨segment', heq, hwritten', -, -, -, hdecode'⟩ := hother.written
  obtain ⟨rfl, rfl⟩ := segment_append_inj (hwritten.not_mem (by decide) (by decide))
    (hwritten'.not_mem (by decide) (by decide)) h.known hother.known heq
  rw [hdecode] at hdecode'
  exact ⟨Except.ok.inj hdecode', rfl⟩

theorem isUnderUsers_append (segment suffix : String) :
    isUnderUsers (users ++ "/" ++ segment ++ suffix) = true := by
  simp [isUnderUsers, List.isPrefixOf_iff_prefix]

theorem NamesUser.isUnderUsers (h : NamesUser name suffix path) : isUnderUsers path = true := by
  obtain ⟨segment, rfl, -⟩ := h.written
  exact isUnderUsers_append segment suffix

/-- A path that asks for a user is not the path of a name that is no segment. -/
theorem NamesUser.ne_userPath (h : NamesUser name suffix path) (hother : ¬Holdings.IsSegment other)
    (hending : ending ∈ suffixes) : path ≠ userPath other ++ ending := by
  rintro rfl
  obtain ⟨segment, heq, hwritten, hempty, hhere, habove, -⟩ := h.written
  obtain ⟨hsegment, -⟩ := segment_append_inj (slash_not_mem_encode other)
    (hwritten.not_mem (by decide) (by decide)) hending h.known heq
  have hbad : other = "" ∨ other = "." ∨ other = ".." := by
    refine Decidable.byContradiction fun hgood => hother ?_
    simp only [not_or] at hgood
    exact hgood
  rcases hbad with rfl | rfl | rfl
  · exact hempty (hsegment ▸ by decide)
  · exact hhere (hsegment ▸ by decide)
  · exact habove (hsegment ▸ by decide)

/-- No fixed path lies below the users. -/
theorem isUnderUsers_fixed (h : path ∈ fixed) : Endpoint.isUnderUsers path = false := by
  have hall : ∀ path ∈ fixed, Endpoint.isUnderUsers path = false := by decide
  exact hall path h

end VaultAccess.Vault.Endpoint
