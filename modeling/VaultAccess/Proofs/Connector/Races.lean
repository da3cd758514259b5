import Mathlib.Logic.Relation
import VaultAccess.Connector.Race
import VaultAccess.Proofs.Connector.Losses

/-!
# Races agree

Whatever the order in which connectors that share a vault ask, each site is enabled once, by the
first request that gets through, and in use for all that come later. So a pass only fails where the
vault fails one of its requests, and has all its backends mounted where it succeeds.
-/
namespace VaultAccess

open Vault Program

theorem Site.endpoint_injective : Function.Injective endpoint := by
  rintro ⟨kind, path⟩ ⟨kind', path'⟩ h
  have hchars := congrArg String.toList h
  simp only [endpoint, String.toList_append] at hchars
  cases kind with
  | auth =>
    cases kind' with
    | auth => exact congrArg (mk .auth) (String.toList_inj.mp (List.append_cancel_left hchars))
    | secrets => simp [Endpoint.authMethods, Endpoint.mounts] at hchars
  | secrets =>
    cases kind' with
    | auth => simp [Endpoint.authMethods, Endpoint.mounts] at hchars
    | secrets =>
      exact congrArg (mk .secrets) (String.toList_inj.mp (List.append_cancel_left hchars))

theorem Backend.endpoint_site (b : Backend) : b.site.endpoint = Endpoint.backend b := rfl

namespace Connector

variable {b : Backend} {site : Site} {taken taken' : List Site} {request : Request}
  {answer : Answer} {x : Exchange} {m : Mounter} {i : Nat}

/-! ## Answers of the vault -/

/-- What is refused is a failure. -/
theorem isFailure_of_outcome {e : Fault} (h : b.outcome answer = .error e) : IsFailure answer := by
  cases answer with
  | error e' => trivial
  | ok r =>
    rw [Backend.outcome, Backend.classify] at h
    by_cases hsuccess : r.isSuccess
    · rw [if_pos hsuccess] at h
      cases h
    · rw [if_neg hsuccess] at h
      by_cases hinUse : Backend.saysInUse r
      · rw [if_pos hinUse] at h
        cases h
      · exact ⟨hsuccess, fun hsays => hinUse (Backend.saysInUse_iff.mpr hsays)⟩

/-- A failure is refused. -/
theorem outcome_of_isFailure (h : IsFailure answer) : ∃ e, b.outcome answer = .error e := by
  cases answer with
  | error e => exact ⟨_, rfl⟩
  | ok r =>
    obtain ⟨hsuccess, hsays⟩ := h
    have hinUse : ¬Backend.saysInUse r := fun hinUse => hsays (Backend.saysInUse_iff.mp hinUse)
    exact ⟨_, by rw [Backend.outcome, Backend.classify, if_neg hsuccess, if_neg hinUse]⟩

namespace VaultReply

/-- Sites stay taken. -/
theorem subset (h : VaultReply taken request answer taken') : taken ⊆ taken' := by
  cases h with
  | mounts => exact List.subset_append_left _ _
  | inUse => exact List.Subset.refl _
  | fails => exact List.Subset.refl _

/-- A request at a site mounts it if it is free, finds it in use if it is taken, or fails. -/
theorem at_site (h : VaultReply taken request answer taken')
    (hpath : request.path = Endpoint.backend b) :
    b.site ∉ taken ∧ b.site ∈ taken' ∧ b.outcome answer = .ok .enabled ∨
      b.site ∈ taken ∧ b.site ∈ taken' ∧ b.outcome answer = .ok .alreadyEnabled ∨
      taken' = taken ∧ ∃ e, b.outcome answer = .error e := by
  have hsame {site : Site} (hsite : request.path = site.endpoint) : site = b.site :=
    Site.endpoint_injective (hsite.symm.trans hpath)
  cases h with
  | mounts _ hsite hfree hsuccess =>
    obtain rfl := hsame hsite
    refine .inl ⟨hfree, by simp, ?_⟩
    rw [Backend.outcome, Backend.classify, if_pos hsuccess]
  | inUse _ hsite htaken hstatus hmessage =>
    obtain rfl := hsame hsite
    exact .inr (.inl ⟨htaken, htaken, Backend.outcome_of_inUse hstatus hmessage⟩)
  | fails hfailure => exact .inr (.inr ⟨rfl, outcome_of_isFailure hfailure⟩)

/-- A request elsewhere leaves a site as it is. -/
theorem elsewhere (h : VaultReply taken request answer taken')
    (hpath : request.path ≠ Endpoint.backend b) : b.site ∈ taken' ↔ b.site ∈ taken := by
  cases h with
  | @mounts site r _ hsite _ _ =>
    have hne : b.site ≠ site := by
      rintro rfl
      exact hpath hsite
    simp [hne]
  | inUse => exact Iff.rfl
  | fails => exact Iff.rfl

end VaultReply

/-! ## One site -/

/-- What answers at a site come to, given the sites taken at the start and those taken now. -/
inductive Told (before taken : List Site) (site : Site) : List Backend.Outcome → Prop
  | taken (k : Nat) (hbefore : site ∈ before) (htaken : site ∈ taken) :
      Told before taken site (List.replicate k .alreadyEnabled)
  | free (hbefore : site ∉ before) (hfree : site ∉ taken) : Told before taken site []
  | mounted (k : Nat) (hbefore : site ∉ before) (htaken : site ∈ taken) :
      Told before taken site (.enabled :: List.replicate k .alreadyEnabled)

variable {before : List Site} {outcomes : List Backend.Outcome}

theorem Told.congr (h : Told before taken site outcomes) (hsame : site ∈ taken' ↔ site ∈ taken) :
    Told before taken' site outcomes := by
  cases h with
  | taken k hbefore htaken => exact .taken k hbefore (hsame.mpr htaken)
  | free hbefore hfree => exact .free hbefore fun htaken => hfree (hsame.mp htaken)
  | mounted k hbefore htaken => exact .mounted k hbefore (hsame.mpr htaken)

/-- A site that was free and is mounted has been told so just now. -/
theorem Told.mounts (h : Told before taken site outcomes) (hfree : site ∉ taken)
    (htaken : site ∈ taken') : Told before taken' site (outcomes ++ [.enabled]) := by
  cases h with
  | taken k _ hin => exact absurd hin hfree
  | free hbefore _ => exact .mounted 0 hbefore htaken
  | mounted k _ hin => exact absurd hin hfree

/-- A taken site is told to be in use once more. -/
theorem Told.inUse (h : Told before taken site outcomes) (hin : site ∈ taken)
    (htaken : site ∈ taken') : Told before taken' site (outcomes ++ [.alreadyEnabled]) := by
  cases h with
  | taken k hbefore _ =>
    rw [← List.replicate_succ']
    exact .taken (k + 1) hbefore htaken
  | free _ hfree => exact absurd hin hfree
  | mounted k hbefore _ =>
    rw [List.cons_append, ← List.replicate_succ']
    exact .mounted (k + 1) hbefore htaken

/-- What the answers at the endpoint of a backend come to, in order, refusals left out. -/
def outcomesAt (answered : List Exchange) (b : Backend) : List Backend.Outcome :=
  (answered.filter fun x => x.request.path = Endpoint.backend b).filterMap fun x =>
    (b.outcome x.answer).toOption

theorem outcomesAt_concat (answered : List Exchange) (x : Exchange) (b : Backend) :
    outcomesAt (answered ++ [x]) b = outcomesAt answered b ++ outcomesAt [x] b := by
  rw [outcomesAt, List.filter_append, List.filterMap_append]
  rfl

theorem outcomesAt_elsewhere (hpath : x.request.path ≠ Endpoint.backend b) :
    outcomesAt [x] b = [] := by
  simp [outcomesAt, hpath]

theorem outcomesAt_here (hpath : x.request.path = Endpoint.backend b) :
    outcomesAt [x] b = (b.outcome x.answer).toOption.toList := by
  cases h : b.outcome x.answer <;> simp [outcomesAt, hpath, h, Except.toOption]

/-- One more answer adds what it comes to at its site, and nothing at another. -/
theorem Told.answered {answered : List Exchange}
    (h : Told before taken b.site (outcomesAt answered b))
    (hreply : VaultReply taken request answer taken') :
    Told before taken' b.site (outcomesAt (answered ++ [⟨request, answer⟩]) b) := by
  rw [outcomesAt_concat]
  by_cases hpath : request.path = Endpoint.backend b
  · rw [outcomesAt_here hpath]
    rcases hreply.at_site hpath with
      ⟨hfree, htaken, houtcome⟩ | ⟨hin, htaken, houtcome⟩ | ⟨rfl, e, houtcome⟩
    · rw [houtcome]
      exact h.mounts hfree htaken
    · rw [houtcome]
      exact h.inUse hin htaken
    · rw [houtcome]
      simpa [Except.toOption] using h
  · rw [outcomesAt_elsewhere hpath, List.append_nil]
    exact h.congr (hreply.elsewhere hpath)

/-! ## One connector -/

/-- That a backend is mounted where an answer lets it count as mounted. -/
def Landed (taken : List Site) (x : Exchange) : Prop :=
  ∀ b, x.request = Backend.enabling b → ∀ o, b.outcome x.answer = .ok o → b.site ∈ taken

/-- What the vault answers to be mounted is mounted. -/
theorem VaultReply.landed (h : VaultReply taken request answer taken') :
    Landed taken' ⟨request, answer⟩ := by
  rintro b rfl o ho
  rcases h.at_site (b := b) rfl with ⟨-, htaken, -⟩ | ⟨-, htaken, -⟩ | ⟨-, e, he⟩
  · exact htaken
  · exact htaken
  · rw [ho] at he
    cases he

/-- What holds of a connector, given the sites that are taken. -/
structure Mounter.Sound (taken : List Site) (m : Mounter) : Prop where
  remembered : ∀ outcomes, m.memory = ⟨some outcomes⟩ → ∀ b ∈ m.backends, b.site ∈ taken
  underWay : ∀ xs q, m.pass = some (xs, q) →
    Plays ((Session.bootstrap m.backends).run m.memory) xs q ∧ ∀ x ∈ xs, Landed taken x
  failed : ∀ xs e, (xs, .error e) ∈ m.ended → ∃ x ∈ xs, IsFailure x.answer
  succeeded : ∀ xs outcomes, (xs, .ok outcomes) ∈ m.ended → ∀ b ∈ m.backends, b.site ∈ taken

namespace Mounter.Sound

theorem idle (taken : List Site) (backends : List Backend) :
    (Mounter.idle backends).Sound taken where
  remembered _ h := nomatch h
  underWay _ _ h := nomatch h
  failed _ _ h := nomatch h
  succeeded _ _ h := nomatch h

theorem mono (h : m.Sound taken) (hsubset : taken ⊆ taken') : m.Sound taken' where
  remembered outcomes hmemory b hb := hsubset (h.remembered outcomes hmemory b hb)
  underWay xs q hpass := by
    obtain ⟨hplays, hlanded⟩ := h.underWay xs q hpass
    exact ⟨hplays, fun x hx b hb o ho => hsubset (hlanded x hx b hb o ho)⟩
  failed := h.failed
  succeeded xs outcomes hmem b hb := hsubset (h.succeeded xs outcomes hmem b hb)

/-- A pass begins with nothing asked. -/
theorem begin (h : m.Sound taken) :
    { m with pass := some ([], (Session.bootstrap m.backends).run m.memory) }.Sound taken where
  remembered := h.remembered
  underWay xs q hpass := by
    obtain ⟨rfl, rfl⟩ := Prod.mk.inj (Option.some.inj hpass)
    exact ⟨.stop _, List.forall_mem_nil _⟩
  failed := h.failed
  succeeded := h.succeeded

theorem note {xs : List Exchange} {line : LogLine}
    {next : Program (Except Fault (List Backend.Outcome) × Memory)} (h : m.Sound taken)
    (hpass : m.pass = some (xs, .note line next)) :
    { m with pass := some (xs, next) }.Sound taken where
  remembered := h.remembered
  underWay ys q hnext := by
    cases hnext
    obtain ⟨hplays, hlanded⟩ := h.underWay _ _ hpass
    exact ⟨hplays.noted, hlanded⟩
  failed := h.failed
  succeeded := h.succeeded

theorem ask {xs : List Exchange}
    {next : Answer → Program (Except Fault (List Backend.Outcome) × Memory)} (h : m.Sound taken)
    (hpass : m.pass = some (xs, .ask request next))
    (hreply : VaultReply taken request answer taken') :
    { m with pass := some (xs ++ [(⟨request, answer⟩ : Exchange)], next answer) }.Sound taken' where
  remembered := (h.mono hreply.subset).remembered
  underWay ys q hnext := by
    cases hnext
    obtain ⟨hplays, hlanded⟩ := (h.mono hreply.subset).underWay _ _ hpass
    refine ⟨hplays.answered answer, ?_⟩
    intro x hx
    rcases List.mem_append.mp hx with hx | hx
    · exact hlanded x hx
    · rw [List.mem_singleton.mp hx]
      exact hreply.landed
  failed := h.failed
  succeeded := (h.mono hreply.subset).succeeded

/-- What a pass that is done gives, and what is remembered then. -/
theorem result {xs : List Exchange} {r : Except Fault (List Backend.Outcome)} {memory : Memory}
    (h : m.Sound taken) (hpass : m.pass = some (xs, done (r, memory))) :
    (∀ outcomes, memory = ⟨some outcomes⟩ → ∃ outcomes, r = .ok outcomes) ∧
    (∀ e, r = .error e → ∃ x ∈ xs, IsFailure x.answer) ∧
      ∀ outcomes, r = .ok outcomes → ∀ b ∈ m.backends, b.site ∈ taken := by
  obtain ⟨hplays, hlanded⟩ := h.underWay _ _ hpass
  obtain ⟨backends, ⟨remembered⟩, pass, ended⟩ := m
  cases remembered with
  | some outcomes =>
    obtain ⟨rfl, hdone⟩ := plays_bootstrap_mounted hplays
    cases hdone
    refine ⟨fun _ _ => ⟨outcomes, rfl⟩, ?_, fun _ _ => h.remembered outcomes rfl⟩
    intro e he
    cases he
  | none =>
    obtain ⟨hmounting, hafter⟩ := pass_of_bootstrap hplays
    refine ⟨?_, ?_, ?_⟩
    · rintro outcomes rfl
      cases r with
      | error e => cases hafter
      | ok outcomes' => exact ⟨outcomes', rfl⟩
    · rintro e rfl
      obtain ⟨b, -, x, hx, -, hrefused⟩ := hmounting.exists_refused
      exact ⟨x, hx, isFailure_of_outcome hrefused⟩
    · rintro outcomes rfl b hb
      obtain ⟨x, hx, hrequest, o, ho⟩ := hmounting.exists_mounted b hb
      exact hlanded x hx b hrequest o ho

theorem finish {xs : List Exchange} {r : Except Fault (List Backend.Outcome)} {memory : Memory}
    (h : m.Sound taken) (hpass : m.pass = some (xs, done (r, memory))) :
    { m with memory, pass := none, ended := m.ended ++ [(xs, r)] }.Sound taken := by
  obtain ⟨hmemory, hfailed, hsucceeded⟩ := h.result hpass
  constructor
  case remembered =>
    intro outcomes hremembered
    obtain ⟨outcomes', hr⟩ := hmemory outcomes hremembered
    exact hsucceeded outcomes' hr
  case underWay =>
    intro ys q hnone
    cases hnone
  case failed =>
    intro ys e hmem
    rcases List.mem_append.mp hmem with hmem | hmem
    · exact h.failed ys e hmem
    · obtain ⟨rfl, hr⟩ := Prod.mk.inj (List.mem_singleton.mp hmem)
      exact hfailed e hr.symm
  case succeeded =>
    intro ys outcomes hmem
    rcases List.mem_append.mp hmem with hmem | hmem
    · exact h.succeeded ys outcomes hmem
    · obtain ⟨rfl, hr⟩ := Prod.mk.inj (List.mem_singleton.mp hmem)
      exact hsucceeded outcomes hr.symm

end Mounter.Sound

/-! ## The race -/

namespace Race

variable {race race' : Race}

/-- What holds throughout a race. -/
structure Sound (before : List Site) (race : Race) : Prop where
  mounters : ∀ m ∈ race.mounters, m.Sound race.taken
  told : ∀ b : Backend, Told before race.taken b.site (outcomesAt race.answered b)

theorem sound_start (taken : List Site) (lists : List (List Backend)) :
    Sound taken (start taken lists) where
  mounters m hm := by
    obtain ⟨backends, -, rfl⟩ := List.mem_map.mp hm
    exact .idle taken backends
  told b := by
    by_cases h : b.site ∈ taken
    · exact .taken 0 h h
    · exact .free h h

/-- A connector that is sound in another state leaves the race sound. -/
theorem Sound.put (h : Sound before race) (hm : m.Sound race.taken) (i : Nat) :
    Sound before (race.put i m) where
  mounters m' hm' := by
    rcases List.mem_or_eq_of_mem_set hm' with hmem | rfl
    · exact h.mounters m' hmem
    · exact hm
  told := h.told

/-- An answer of the vault leaves the race sound. -/
theorem Sound.answered (h : Sound before race)
    (hreply : VaultReply race.taken request answer taken) :
    Sound before ⟨taken, race.mounters, race.answered ++ [⟨request, answer⟩]⟩ where
  mounters m hm := (h.mounters m hm).mono hreply.subset
  told b := (h.told b).answered hreply

/-- Every step of a connector leaves the race sound. -/
theorem Sound.step (h : Sound before race) (hstep : Step race race') : Sound before race' := by
  cases hstep with
  | begin hm _ =>
    exact h.put (h.mounters _ (List.mem_of_getElem? hm)).begin _
  | note hm hpass =>
    exact h.put ((h.mounters _ (List.mem_of_getElem? hm)).note hpass) _
  | ask hm hpass hreply =>
    exact (h.answered hreply).put ((h.mounters _ (List.mem_of_getElem? hm)).ask hpass hreply) _
  | finish hm hpass =>
    exact h.put ((h.mounters _ (List.mem_of_getElem? hm)).finish hpass) _

theorem Sound.steps (h : Sound before race) (hsteps : Relation.ReflTransGen Step race race') :
    Sound before race' := by
  induction hsteps with
  | refl => exact h
  | tail _ hstep ih => exact ih.step hstep

/-- Racing mounting passes agree. For any number of connectors with any backends and whatever the
order of their requests: a pass fails only if the vault failed one of its own requests; once a pass
has succeeded all its backends are mounted; and what the answers at a backend's site come to is that
it was enabled, once and first, and in use ever after, or only in use if it was taken at the
start. -/
theorem racing_passes_agree (taken : List Site) (lists : List (List Backend)) {race : Race}
    (h : Relation.ReflTransGen Step (start taken lists) race) :
    (∀ m ∈ race.mounters, ∀ xs e, (xs, .error e) ∈ m.ended → ∃ x ∈ xs, IsFailure x.answer) ∧
    (∀ m ∈ race.mounters, ∀ xs outcomes, (xs, .ok outcomes) ∈ m.ended →
      ∀ b ∈ m.backends, b.site ∈ race.taken) ∧
    ∀ b : Backend,
      (b.site ∈ taken → ∀ o ∈ outcomesAt race.answered b, o = .alreadyEnabled) ∧
      (b.site ∉ taken → outcomesAt race.answered b = [] ∨ ∃ k,
        outcomesAt race.answered b = .enabled :: List.replicate k .alreadyEnabled) := by
  have hsound := (sound_start taken lists).steps h
  refine ⟨fun m hm => (hsound.mounters m hm).failed, fun m hm => (hsound.mounters m hm).succeeded,
    fun b => ?_⟩
  generalize houtcomes : outcomesAt race.answered b = outcomes
  have htold := hsound.told b
  rw [houtcomes] at htold
  cases htold with
  | taken k hbefore _ =>
    refine ⟨fun _ o ho => (List.mem_replicate.mp ho).2, fun hfree => absurd hbefore hfree⟩
  | free hbefore _ =>
    exact ⟨fun htaken => absurd htaken hbefore, fun _ => .inl rfl⟩
  | mounted k hbefore _ =>
    exact ⟨fun htaken => absurd htaken hbefore, fun _ => .inr ⟨k, rfl⟩⟩

/-- A secrets engine that two connectors mount, one of them with slashes around its path. -/
def shared : Backend := ⟨"secret", .secrets, "kv", none, []⟩

def slashed : Backend := { shared with path := "/secret/" }

/-- An auth method that is mounted at the start. -/
def present : Backend := ⟨"approle", .auth, "approle", none, []⟩

/-- What two connectors are answered, one of them cut off at first. -/
def answers : List Exchange :=
  [⟨Backend.enabling slashed, .error .cancelled⟩,
    ⟨Backend.enabling present, .ok (Backend.inUse "approle")⟩,
    ⟨Backend.enabling shared, .ok ⟨204, .null⟩⟩,
    ⟨Backend.enabling slashed, .ok (Backend.inUse "secret")⟩]

/-- The first of two connectors is cut off, and the second has mounted both its backends before the
first tries again. -/
theorem racing_passes_agree_of_rivals :
    ∃ race, Relation.ReflTransGen Step (start [present.site] [[slashed], [present, shared]]) race ∧
      race.answered = answers ∧
      (∀ m ∈ race.mounters, ∀ b ∈ m.backends, b.site ∈ race.taken) ∧
      outcomesAt race.answered shared = [.enabled, .alreadyEnabled] := by
  have hcut : IsFailure (.error .cancelled) := trivial
  have hpresent : VaultReply [present.site] (Backend.enabling present)
      (.ok (Backend.inUse "approle")) [present.site] :=
    .inUse rfl (Backend.endpoint_site present).symm (by decide) rfl (by decide)
  have hmounts : VaultReply [present.site] (Backend.enabling shared) (.ok ⟨204, .null⟩)
      [present.site, shared.site] :=
    .mounts rfl (Backend.endpoint_site shared).symm (by decide) rfl
  have hinUse : VaultReply [present.site, shared.site] (Backend.enabling slashed)
      (.ok (Backend.inUse "secret")) [present.site, shared.site] :=
    .inUse rfl (Backend.endpoint_site slashed).symm (by decide) rfl (by decide)
  have hreach := Relation.ReflTransGen.refl (r := Step)
    (a := start [present.site] [[slashed], [present, shared]])
  -- The request of the first connector is cancelled.
  have hreach := hreach.tail (.begin (i := 0) rfl rfl)
  have hreach := hreach.tail (.note (i := 0) rfl rfl)
  have hreach := hreach.tail (.ask (i := 0) rfl rfl (.fails hcut))
  have hreach := hreach.tail (.finish (i := 0) rfl rfl)
  -- The second one finds its first backend in use and mounts the other.
  have hreach := hreach.tail (.begin (i := 1) rfl rfl)
  have hreach := hreach.tail (.note (i := 1) rfl rfl)
  have hreach := hreach.tail (.ask (i := 1) rfl rfl hpresent)
  have hreach := hreach.tail (.note (i := 1) rfl rfl)
  have hreach := hreach.tail (.ask (i := 1) rfl rfl hmounts)
  have hreach := hreach.tail (.note (i := 1) rfl rfl)
  have hreach := hreach.tail (.finish (i := 1) rfl rfl)
  -- The first one tries again and finds the engine in use.
  have hreach := hreach.tail (.begin (i := 0) rfl rfl)
  have hreach := hreach.tail (.note (i := 0) rfl rfl)
  have hreach := hreach.tail (.ask (i := 0) rfl rfl hinUse)
  have hreach := hreach.tail (.note (i := 0) rfl rfl)
  have hreach := hreach.tail (.finish (i := 0) rfl rfl)
  obtain ⟨-, hmounted, houtcomes⟩ := racing_passes_agree _ _ hreach
  refine ⟨_, hreach, rfl, ?_, ?_⟩
  · intro m hm
    rcases List.mem_cons.mp hm with rfl | hm
    · exact hmounted _ List.mem_cons_self _ _ (List.mem_cons_of_mem _ List.mem_cons_self)
    · obtain rfl := List.mem_singleton.mp hm
      exact hmounted _ (List.mem_cons_of_mem _ List.mem_cons_self) _ _ List.mem_cons_self
  · have htold : outcomesAt answers shared = [] ∨ ∃ k,
        outcomesAt answers shared = .enabled :: List.replicate k .alreadyEnabled :=
      (houtcomes shared).2 (by decide)
    have hlength : (outcomesAt answers shared).length = 2 := by decide +kernel
    rcases htold with hnone | ⟨k, hk⟩
    · rw [hnone] at hlength
      cases hlength
    · rw [hk, List.length_cons, List.length_replicate] at hlength
      obtain rfl : k = 1 := Nat.succ.inj hlength
      exact hk

end Race

end Connector

end VaultAccess
