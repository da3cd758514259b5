import VaultAccess.Proofs.App.Sending
import VaultAccess.Proofs.Settings.Written

/-!
# What is shown of the settings

Showing the settings tells nothing of a token but that there is one, from whatever source it comes:
where all else is the same, so is the text. It tells everything else: settings in force that differ
elsewhere are shown differently.
-/
namespace VaultAccess

/-! ## Settings that differ in their tokens -/

/-- Settings that differ in nothing but the value of their token, which both have or neither has. -/
structure Settings.SameButToken (s t : Settings) : Prop where
  rest : { s with vault := { s.vault with token := none } } =
    { t with vault := { t.vault with token := none } }
  token : s.vault.token.isSome = t.vault.token.isSome

theorem Settings.redacted_eq_iff {s t : Settings} : s.redacted = t.redacted ↔ s.SameButToken t := by
  obtain ⟨⟨address, token, space, timeout⟩, sync, backends, logging⟩ := s
  obtain ⟨⟨address', token', space', timeout'⟩, sync', backends', logging'⟩ := t
  constructor
  · intro h
    constructor
    · simp_all [redacted]
    · cases token <;> cases token' <;> simp_all [redacted]
  · rintro ⟨hrest, htoken⟩
    cases token <;> cases token' <;> simp_all [redacted]

/-- What overrides settings leaves them alike but for their tokens, if it is alike so. -/
theorem Settings.SameButToken.override {s t : Settings} {o o' : Overrides} (h : s.SameButToken t)
    (haddress : o.address = o'.address) (hspace : o.namespace = o'.namespace)
    (htoken : o.token.isSome = o'.token.isSome) :
    (s.override o).SameButToken (t.override o') := by
  obtain ⟨⟨address, token, space, timeout⟩, sync, backends, logging⟩ := s
  obtain ⟨⟨address', token', space', timeout'⟩, sync', backends', logging'⟩ := t
  obtain ⟨hrest, hsome⟩ := h
  constructor
  · simp_all [Settings.override]
  · simp_all [Settings.override]

/-! ## Sources that differ in their tokens -/

namespace Variables

/-- The variables that hold a token. -/
def tokenNames : List String := ["VAULT_TOKEN", "BATON_VAULT_TOKEN"]

/-- Variables that differ in nothing but the values of tokens. -/
structure SameButTokens (env env' : Bindings) : Prop where
  rest : ∀ name ∉ tokenNames, env.lookup name = env'.lookup name
  tokens : ∀ name ∈ tokenNames, (env.lookup name).isSome = (env'.lookup name).isSome

theorem SameButTokens.refl (env : Bindings) : SameButTokens env env :=
  ⟨fun _ _ => rfl, fun _ _ => rfl⟩

/-- Variables stay the same but for tokens with another one, whose values may differ if it holds a
token. -/
theorem SameButTokens.cons {env env' : Bindings} (h : SameButTokens env env')
    (name value value' : String) (hvalue : name ∈ tokenNames ∨ value = value') :
    SameButTokens ((name, value) :: env) ((name, value') :: env') := by
  constructor
  · intro key hkey
    by_cases hname : key = name
    · subst hname
      rw [List.lookup_cons_self, List.lookup_cons_self, hvalue.resolve_left hkey]
    · rw [lookup_cons_of_ne hname, lookup_cons_of_ne hname, h.rest key hkey]
  · intro key hkey
    by_cases hname : key = name
    · subst hname
      rw [List.lookup_cons_self, List.lookup_cons_self, Option.isSome_some, Option.isSome_some]
    · rw [lookup_cons_of_ne hname, lookup_cons_of_ne hname, h.tokens key hkey]

end Variables

/-- Command lines that differ in nothing but the value of the token that they give. -/
structure CommandLine.Invocation.SameButToken (i j : Invocation) : Prop where
  rest : { i with token := none } = { j with token := none }
  token : i.token.isSome = j.token.isSome

namespace App

open CommandLine (Invocation)

variable {σ τ : Type} {start start' : Surroundings} {i i' : Invocation} {file file' s : Settings}

/-- The settings in force, from those of the file. -/
theorem Surroundings.settings_of_load
    (h : Settings.load start.disk (start.settingsFile i) = .ok file) :
    start.settings i = .ok ((file.override (.ofVariables (start.allVariables.lookup ·))).override
      ⟨i.address, i.token, none⟩) := by
  rw [settings, h]

/-- Settings in force from sources that are the same but for tokens are so themselves. -/
theorem sameButToken_of_sources (hflags : i.SameButToken i')
    (hvariables : Variables.SameButTokens start.allVariables start'.allVariables)
    (hfile : file.SameButToken file') :
    ((file.override (.ofVariables (start.allVariables.lookup ·))).override
      ⟨i.address, i.token, none⟩).SameButToken
    ((file'.override (.ofVariables (start'.allVariables.lookup ·))).override
      ⟨i'.address, i'.token, none⟩) := by
  have hnamed (name : String) (h : name ∉ Variables.tokenNames) := hvariables.rest name h
  have hsecret (name : String) (h : name ∈ Variables.tokenNames) := hvariables.tokens name h
  refine (hfile.override ?_ ?_ ?_).override ?_ rfl hflags.token
  · simp only [Settings.Overrides.ofVariables]
    rw [hnamed _ (by decide), hnamed "VAULT_ADDR" (by decide)]
  · simp only [Settings.Overrides.ofVariables]
    rw [hnamed _ (by decide)]
  · have hown := hsecret "BATON_VAULT_TOKEN" (by decide)
    have hcommon := hsecret "VAULT_TOKEN" (by decide)
    simp [Settings.Overrides.ofVariables, hown, hcommon]
  · exact (Invocation.mk.inj hflags.rest).2.1

theorem run_show (wire : Http.Wire σ) (state : σ) (hread : CommandLine.read start.words = .ok i)
    (hshow : i.command = .settings .show) (hsettings : start.settings i = .ok s) :
    (run wire start state).1.output = shownSettings s := by
  have hplan : plan start = planLoaded start i s := by
    unfold plan
    rw [hread]
    dsimp only
    rw [hshow, hsettings]
  unfold run
  rw [hplan]
  unfold planLoaded
  rw [hshow]
  rfl

theorem shownSettings_eq_iff {s t : Settings} :
    shownSettings s = shownSettings t ↔ s.SameButToken t := by
  rw [← Settings.redacted_eq_iff]
  constructor
  · intro h
    have htext : s.redacted.toJson.toPrettyText = t.redacted.toJson.toPrettyText := by
      simpa [shownSettings] using h
    exact Settings.eq_of_toPrettyText htext
  · intro h
    rw [shownSettings, shownSettings, h]

/-- What is shown of the settings does not depend on tokens, and on all else. Let two runs show the
settings, each with a file that can be read, whatever wires there are. If what their files give, the
variables that they see and their options are the same but for the values of tokens, and each source
of a token is there in both runs or in none, the runs print the same. And for any sources, the runs
print the same exactly if the settings in force are the same but for the value of the token. -/
theorem show_hides_tokens_only (wire : Http.Wire σ) (wire' : Http.Wire τ) (state : σ) (state' : τ)
    (start start' : Surroundings) (i i' : Invocation) (file file' : Settings)
    (hread : CommandLine.read start.words = .ok i)
    (hread' : CommandLine.read start'.words = .ok i')
    (hshow : i.command = .settings .show) (hshow' : i'.command = .settings .show)
    (hfile : Settings.load start.disk (start.settingsFile i) = .ok file)
    (hfile' : Settings.load start'.disk (start'.settingsFile i') = .ok file') :
    (i.SameButToken i' → Variables.SameButTokens start.allVariables start'.allVariables →
      file.SameButToken file' →
      (run wire start state).1.output = (run wire' start' state').1.output) ∧
    ∃ s s', start.settings i = .ok s ∧ start'.settings i' = .ok s' ∧
      ((run wire start state).1.output = (run wire' start' state').1.output ↔
        s.SameButToken s') := by
  have hsettings := Surroundings.settings_of_load hfile
  have hsettings' := Surroundings.settings_of_load hfile'
  rw [run_show wire state hread hshow hsettings, run_show wire' state' hread' hshow' hsettings']
  refine ⟨fun hflags hvariables hfiles => ?_, _, _, hsettings, hsettings', shownSettings_eq_iff⟩
  exact shownSettings_eq_iff.mpr (sameButToken_of_sources hflags hvariables hfiles)

/-- A start that shows the settings, with a token from every source there is. -/
def guarded (filed set listed given : String) : Surroundings where
  words := ["--vault-token", given, "config", "show"]
  bindings := [("VAULT_ADDR", "http://127.0.0.1:8202"), ("VAULT_TOKEN", set)]
  home := "/home"
  disk := ⟨[([".env"], .file (Text.Utf8.encode ("BATON_VAULT_TOKEN=" ++ listed))),
    (["vault-connector.json"], .file (Text.Utf8.encode
      ("\x7bvault: \x7btoken: '" ++ filed ++ "', timeoutSecs: 5\x7d\x7d")))]⟩

/-- The settings in the file of such a start. -/
def guardedFile (filed : String) : Settings :=
  { Settings.default with vault := { VaultSettings.default with
    token := some filed, timeoutSecs := 5 } }

/-- The variables of such a start. -/
def guardedVariables (set listed : String) : Variables.Bindings :=
  [("VAULT_ADDR", "http://127.0.0.1:8202"), ("VAULT_TOKEN", set), ("BATON_VAULT_TOKEN", listed)]

theorem sameButTokens_guarded (set listed set' listed' : String) :
    Variables.SameButTokens (guardedVariables set listed) (guardedVariables set' listed') := by
  have hlisted := (Variables.SameButTokens.refl []).cons "BATON_VAULT_TOKEN" listed listed'
    (.inl (by decide))
  exact (hlisted.cons "VAULT_TOKEN" set set' (.inl (by decide))).cons "VAULT_ADDR" _ _ (.inr rfl)

/-- Two runs with other tokens from all sources. -/
theorem show_hides_tokens_only_of_guarded :
    let start := guarded "f1" "s1" "l1" "g1"
    let start' := guarded "f2" "s2" "l2" "g2"
    let invocation given : Invocation := ⟨none, none, some given, .settings .show⟩
    CommandLine.read start.words = .ok (invocation "g1") ∧
    CommandLine.read start'.words = .ok (invocation "g2") ∧
    Settings.load start.disk (start.settingsFile (invocation "g1")) = .ok (guardedFile "f1") ∧
    Settings.load start'.disk (start'.settingsFile (invocation "g2")) = .ok (guardedFile "f2") ∧
    (invocation "g1").SameButToken (invocation "g2") ∧
    Variables.SameButTokens start.allVariables start'.allVariables ∧
    (guardedFile "f1").SameButToken (guardedFile "f2") ∧
    (run losing start ()).1.output = (run losing start' ()).1.output := by
  intro start start' invocation
  have hread : CommandLine.read start.words = .ok (invocation "g1") :=
    ok_of_toOption (by decide +kernel)
  have hread' : CommandLine.read start'.words = .ok (invocation "g2") :=
    ok_of_toOption (by decide +kernel)
  have hfile : Settings.load start.disk (start.settingsFile (invocation "g1")) =
      .ok (guardedFile "f1") := ok_of_toOption (by decide +kernel)
  have hfile' : Settings.load start'.disk (start'.settingsFile (invocation "g2")) =
      .ok (guardedFile "f2") := ok_of_toOption (by decide +kernel)
  have hflags : (invocation "g1").SameButToken (invocation "g2") := ⟨rfl, rfl⟩
  have hvariables : Variables.SameButTokens start.allVariables start'.allVariables := by
    have hall : start.allVariables = guardedVariables "s1" "l1" := by decide +kernel
    have hall' : start'.allVariables = guardedVariables "s2" "l2" := by decide +kernel
    rw [hall, hall']
    exact sameButTokens_guarded "s1" "l1" "s2" "l2"
  have hfiles : (guardedFile "f1").SameButToken (guardedFile "f2") := ⟨rfl, rfl⟩
  obtain ⟨hsame, -⟩ := show_hides_tokens_only losing losing () () start start' _ _ _ _ hread hread'
    rfl rfl hfile hfile'
  exact ⟨hread, hread', hfile, hfile', hflags, hvariables, hfiles, hsame hflags hvariables hfiles⟩

end App

end VaultAccess
