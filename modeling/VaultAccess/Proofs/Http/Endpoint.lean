import VaultAccess.Http.Connection
import VaultAccess.Proofs.Url.Join
import VaultAccess.Proofs.Vault.UserPaths

/-!
# Staying below the base

A request leads to the base with the path of the request after it, or nowhere. The paths of users
lead there whatever their names.
-/
namespace VaultAccess

open Text Url

/-! ## The paths of users -/

theorem toNat_lt_of_isAlphanum {c : Char} (h : c.isAlphanum = true) : c.toNat < 128 := by
  have hcases : (c.isUpper || c.isLower || c.isDigit) = true := h
  have hbelow {last : Char} (hlast : last.toNat < 128) (hle : c.val ≤ last.val) : c.toNat < 128 :=
    Nat.lt_of_le_of_lt (UInt32.le_iff_toNat_le.mp hle) hlast
  rw [Bool.or_eq_true, Bool.or_eq_true] at hcases
  rcases hcases with (hupper | hlower) | hdigit
  · have hrange : 'A'.val ≤ c.val ∧ c.val ≤ 'Z'.val := of_decide_eq_true hupper
    exact hbelow (by decide) hrange.2
  · have hrange : (decide ('a'.val ≤ c.val) && decide (c.val ≤ 'z'.val)) = true := hlower
    exact hbelow (by decide) (of_decide_eq_true (Bool.and_eq_true_iff.mp hrange).2)
  · have hrange : (decide ('0'.val ≤ c.val) && decide (c.val ≤ '9'.val)) = true := hdigit
    exact hbelow (by decide) (of_decide_eq_true (Bool.and_eq_true_iff.mp hrange).2)

theorem stays_of_isPlainChar {c : Char} (h : Percent.isPlainChar c = true) :
    stays pathSet c = true := by
  have hrange : c.toNat < 128 := by
    have hcases := h
    simp only [Percent.isPlainChar, Bool.or_eq_true, beq_iff_eq] at hcases
    rcases hcases with (((hcases | rfl) | rfl) | rfl) | rfl
    · exact toNat_lt_of_isAlphanum hcases
    all_goals decide
  have hall : ∀ n < 128, Percent.isPlainChar (Char.ofNat n) = true →
      stays pathSet (Char.ofNat n) = true := by decide +kernel
  have hstays := hall c.toNat hrange
  rw [Char.ofNat_toNat] at hstays
  exact hstays h

theorem stays_of_mem_encode {name : String} {c : Char} (h : c ∈ (Percent.encode name).toList) :
    stays pathSet c = true := by
  rcases (Percent.written_encode name).mem h with hplain | rfl
  · exact stays_of_isPlainChar hplain
  · decide

namespace Vault.Endpoint

/-- No name but the dot segments themselves is written as a dot segment. -/
theorem isDots_encode {name : String} (h : Holdings.IsSegment name) :
    isDots (Percent.encode name).toList = false := by
  have hhere (text : String) (hmem : text ∈ [".", "%2e", "%2E"]) : Percent.encode name ≠ text := by
    have hall : ∀ text ∈ [".", "%2e", "%2E"], (Percent.decode text).toOption = some "." := by
      decide +kernel
    exact fun heq => h.2.1 (eq_of_encode_eq heq (hall text hmem))
  have habove (text : String) (hmem : text ∈ ["..", "%2e%2e", "%2e%2E", "%2E%2e", "%2E%2E", "%2e.",
      "%2E.", ".%2e", ".%2E"]) : Percent.encode name ≠ text := by
    have hall : ∀ text ∈ ["..", "%2e%2e", "%2e%2E", "%2E%2e", "%2E%2E", "%2e.", "%2E.", ".%2e",
        ".%2E"], (Percent.decode text).toOption = some ".." := by
      decide +kernel
    exact fun heq => h.2.2 (eq_of_encode_eq heq (hall text hmem))
  rw [isDots, Bool.or_eq_false_iff, isHere, isAbove, String.ofList_toList, ← Bool.not_eq_true,
    ← Bool.not_eq_true, List.contains_iff_mem, List.contains_iff_mem]
  exact ⟨fun hmem => hhere _ hmem rfl, fun hmem => habove _ hmem rfl⟩

variable {name suffix : String}

/-- The characters of a user's path. -/
theorem toList_userPath_append :
    (userPath name ++ suffix).toList =
      users.toList ++ '/' :: ((Percent.encode name).toList ++ suffix.toList) := by
  simp [userPath]

theorem stays_userPath (name : String) (hsuffix : suffix ∈ suffixes) :
    ∀ c ∈ (userPath name ++ suffix).toList, stays pathSet c = true ∧ c ≠ '\\' := by
  have hplain : ∀ text ∈ users :: suffixes,
      (text.toList.all fun c => stays pathSet c && c != '\\') = true := by decide
  have hfixed (text : String) (htext : text ∈ users :: suffixes) (c : Char)
      (hc : c ∈ text.toList) : stays pathSet c = true ∧ c ≠ '\\' := by
    have hchar := List.all_eq_true.mp (hplain text htext) c hc
    rwa [Bool.and_eq_true, bne_iff_ne] at hchar
  intro c hc
  rw [toList_userPath_append, List.mem_append, List.mem_cons, List.mem_append] at hc
  rcases hc with hc | rfl | hc | hc
  · exact hfixed _ List.mem_cons_self c hc
  · decide
  · refine ⟨stays_of_mem_encode hc, ?_⟩
    rintro rfl
    exact Percent.not_mem_encode (by decide) (by decide) name hc
  · exact hfixed _ (List.mem_cons_of_mem _ hsuffix) c hc

theorem isDots_userPath (hname : Holdings.IsSegment name) (hsuffix : suffix ∈ suffixes) :
    ∀ s ∈ fields '/' (userPath name ++ suffix).toList, isDots s = false := by
  have husers : users.toList = "v1".toList ++ '/' :: ("auth".toList ++ '/' ::
      ("userpass".toList ++ '/' :: "users".toList)) := by decide
  have hfixed : ∀ s ∈ ["v1".toList, "auth".toList, "userpass".toList, "users".toList,
      "policies".toList], isDots s = false := by decide
  intro s hs
  rw [toList_userPath_append, husers] at hs
  simp only [List.append_assoc, List.cons_append] at hs
  rw [fields_append_cons '/' _ _ (by decide), fields_append_cons '/' _ _ (by decide),
    fields_append_cons '/' _ _ (by decide), fields_append_cons '/' _ _ (by decide),
    fields_segment_suffix (slash_not_mem_encode name) hsuffix] at hs
  simp only [List.mem_cons] at hs
  rcases hs with rfl | rfl | rfl | rfl | rfl | hs
  · exact hfixed _ (by simp)
  · exact hfixed _ (by simp)
  · exact hfixed _ (by simp)
  · exact hfixed _ (by simp)
  · exact isDots_encode hname
  · split at hs
    · cases hs
    · rw [List.mem_singleton.mp hs]
      exact hfixed _ (by simp)

end Vault.Endpoint

namespace Http

/-! ## The base -/

theorem getLast?_withSlash (url : Url) : (withSlash url).path.toList.getLast? = some '/' := by
  unfold withSlash
  split
  · next hlast => exact hlast
  · simp

/-- A connection goes to the URL that its address stands for, with a slash at the end of its path. -/
theorem base_of_ofSettings {s : VaultSettings} {c : Connection}
    (h : Connection.ofSettings s = .ok c) :
    ∃ u, Url.parse s.address = .ok u ∧ u.host ≠ none ∧ u.isRootless = false ∧
      c.base = withSlash u := by
  unfold Connection.ofSettings at h
  obtain ⟨base, hbase, h⟩ := ok_of_bind h
  split at h
  · cases h
  cases h
  unfold baseOf at hbase
  extract_lets fault at hbase
  split at hbase
  · cases hbase
  next u hparse =>
  split at hbase
  · cases hbase
  next hplace =>
  cases hbase
  simp only [not_or] at hplace
  exact ⟨u, hparse, hplace.2, Bool.eq_false_iff.mpr hplace.1, rfl⟩

namespace Connection

variable {c : Connection}

/-- The URL with a text after the path of the base. -/
def below (c : Connection) (relative : List Char) : Url :=
  { c.base with
    path := String.ofList (c.base.path.toList ++ relative)
    query := none
    fragment := none }

/-- A path that is not refused leads below the base. -/
theorem endpoint_cases (hbase : c.base.path ≠ "") {path : String}
    (hpath : path.toList.dropWhile (· == '/') ≠ []) :
    (∃ e, c.endpoint path = .error e) ∨
      c.endpoint path = .ok (c.below (path.toList.dropWhile (· == '/'))) := by
  unfold endpoint
  extract_lets relative
  split
  · exact .inl ⟨_, rfl⟩
  next url hjoin =>
  split
  · next hsame =>
    rw [eq_of_join hjoin hsame hbase hpath]
    exact .inr rfl
  · exact .inl ⟨_, rfl⟩

/-- The path of a user is not refused. -/
theorem endpoint_user (hroot : c.base.isRootless = false)
    (hlast : c.base.path.toList.getLast? = some '/') {name suffix : String}
    (hname : Vault.Holdings.IsSegment name) (hsuffix : suffix ∈ Vault.Endpoint.suffixes) :
    c.endpoint (Vault.Endpoint.userPath name ++ suffix) =
      .ok (c.below (Vault.Endpoint.userPath name ++ suffix).toList) := by
  have hstays := Vault.Endpoint.stays_userPath name hsuffix
  have hdots := Vault.Endpoint.isDots_userPath hname hsuffix
  obtain ⟨rest, hrest⟩ : ∃ rest, (Vault.Endpoint.userPath name ++ suffix).toList =
      'v' :: '1' :: '/' :: rest := by
    rw [Vault.Endpoint.toList_userPath_append]
    exact ⟨_, rfl⟩
  rw [hrest] at hstays hdots
  have hjoin := join_of_stays hroot hlast (fun c hc => (hstays c hc).1)
    (fun hmem => (hstays _ hmem).2 rfl) hdots (by rfl) (by rfl) (by simp) (List.cons_ne_nil _ _)
  unfold endpoint
  extract_lets relative
  have hrelative : relative = 'v' :: '1' :: '/' :: rest := by
    unfold relative
    rw [hrest]
    rfl
  rw [hrelative, hjoin, hrest]
  simp only [String.toList_ofList, if_pos]
  rfl

/-- Requests stay below the base. The base is the URL of the address with a slash at the end of
its path. A path that has more than slashes is refused or leads to the base with what comes after
its first slashes at the end, and the path of a user is never refused. -/
theorem stays_below {s : VaultSettings} (h : ofSettings s = .ok c) :
    (∃ u, Url.parse s.address = .ok u ∧
      c.base = { u with
        path := if u.path.toList.getLast? = some '/' then u.path else u.path ++ "/" }) ∧
    (∀ path : String, path.toList.dropWhile (· == '/') ≠ [] →
      (∃ e, c.endpoint path = .error e) ∨
        c.endpoint path = .ok
          { c.base with
            path := String.ofList (c.base.path.toList ++ path.toList.dropWhile (· == '/'))
            query := none
            fragment := none }) ∧
    ∀ name suffix path : String, suffix ∈ ["", "/policies"] →
      Vault.Endpoint.user name suffix = .ok path →
      c.endpoint path = .ok
        { c.base with path := c.base.path ++ path, query := none, fragment := none } := by
  obtain ⟨u, hparse, hhost, hroot, hbase⟩ := base_of_ofSettings h
  have hlast : c.base.path.toList.getLast? = some '/' := hbase ▸ getLast?_withSlash u
  have hne : c.base.path ≠ "" := by
    intro heq
    rw [heq] at hlast
    cases hlast
  have hrootless : c.base.isRootless = false := by
    rw [hbase, withSlash]
    split <;> exact hroot
  refine ⟨⟨u, hparse, ?_⟩, fun path hpath => endpoint_cases hne hpath, ?_⟩
  · rw [hbase, withSlash]
    split <;> rfl
  · intro name suffix path hsuffix hpath
    obtain ⟨hname, rfl⟩ := Vault.Endpoint.user_eq_ok_iff.mp hpath
    rw [endpoint_user hrootless hlast hname hsuffix, below, String.ofList_append,
      String.ofList_toList, String.ofList_toList]

/-- The settings of a vault below a path, at an address with a user, a query and a fragment. -/
def deepSettings : VaultSettings := ⟨"http://ada@127.0.0.1:8200/vault?x#y", some "t", none, 30⟩

theorem ofSettings_deepSettings :
    ofSettings deepSettings = .ok
      ⟨⟨"http", "ada", none, some (.ipv4 0x7F000001), true, some 8200, "/vault/", false, some "x",
        some "y"⟩, "t", none⟩ := by
  have hconnection : (ofSettings deepSettings).toOption =
      some ⟨⟨"http", "ada", none, some (.ipv4 0x7F000001), true, some 8200, "/vault/", false,
        some "x", some "y"⟩, "t", none⟩ := by decide +kernel
  cases h : ofSettings deepSettings with
  | error e =>
    rw [h] at hconnection
    cases hconnection
  | ok c =>
    rw [h] at hconnection
    exact congrArg Except.ok (Option.some.inj hconnection)

/-- Below `/vault/` a path that leads back is refused, and a user named like one stays there. -/
theorem stays_below_of_deepSettings :
    ∃ c, ofSettings deepSettings = .ok c ∧ c.base.path = "/vault/" ∧
      (c.endpoint "/v1/../sys/seal").toOption = none ∧
      ((∃ e, c.endpoint "/v1/../sys/seal" = .error e) ∨
        c.endpoint "/v1/../sys/seal" = .ok
          { c.base with path := "/vault/v1/../sys/seal", query := none, fragment := none }) ∧
      c.endpoint "v1/auth/userpass/users/..%2F%3F/policies" = .ok
        { c.base with
          path := "/vault/" ++ "v1/auth/userpass/users/..%2F%3F/policies"
          query := none
          fragment := none } := by
  have hbelow := stays_below ofSettings_deepSettings
  refine ⟨_, ofSettings_deepSettings, rfl, by decide +kernel, ?_, ?_⟩
  · exact hbelow.2.1 "/v1/../sys/seal" (by decide)
  · exact hbelow.2.2 "../?" "/policies" _ (by decide) (by rfl)

end Connection

end Http

end VaultAccess
