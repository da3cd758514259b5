import VaultAccess.Connector.Basic
import VaultAccess.Proofs.Paging.OneStep
import VaultAccess.Proofs.Paging.Windows

/-!
# Walks over phases

A kind may be listed in phases, each with a listing of its own. A walk takes one call for each phase
and hands out their records in order. Where it goes on is told by the index of the phase alone, so a
phase without records takes its call like any other and does not end the walk.
-/
namespace VaultAccess.Paging

open Text

variable {π ρ α : Type}

/-! ## The phase of a marker -/

theorem phaseIndex_eq_ok_iff {marker : Option String} {phases i : Nat} :
    phaseIndex marker phases = .ok i ↔ index "phase" marker = .ok i ∧ i < phases := by
  unfold phaseIndex
  cases index "phase" marker with
  | error e => simp
  | ok j =>
    by_cases hj : j < phases
    · simp only [if_pos hj, Except.ok.injEq]
      exact ⟨fun h => ⟨h, h ▸ hj⟩, And.left⟩
    · simp only [if_neg hj, Except.ok.injEq, reduceCtorEq, false_iff, not_and]
      exact fun h hi => hj (h ▸ hi)

/-- A marker that writes no word names no phase. -/
theorem phaseIndex_of_not_writes {m : String} (phases : Nat)
    (h : ∀ i, Decimal.Writes m i → Decimal.wordLimit ≤ i) :
    phaseIndex (some m) phases = .error (.cursor ("invalid phase marker '" ++ m ++ "'")) := by
  rw [phaseIndex, index_of_not_writes "phase" h]
  rfl

/-- Nor does one that writes a word past the last phase. -/
theorem phaseIndex_of_le {m : String} {phases i : Nat} (h : Decimal.Writes m i)
    (hword : i < Decimal.wordLimit) (hle : phases ≤ i) :
    phaseIndex (some m) phases =
      .error (.cursor ("phase " ++ Decimal.write i ++ " is out of range (" ++
        Decimal.write phases ++ " phases)")) := by
  rw [phaseIndex, index_of_writes "phase" h hword]
  exact if_neg (Nat.not_lt_of_le hle)

/-- A marker that writes no index of a phase is refused, for one reason or the other. -/
theorem exists_phaseIndex_error {m : String} {phases : Nat}
    (h : ∀ i, Decimal.Writes m i → phases ≤ i) :
    ∃ reason, phaseIndex (some m) phases = .error (.cursor reason) := by
  by_cases hword : ∃ i, Decimal.Writes m i ∧ i < Decimal.wordLimit
  · obtain ⟨i, hwrites, hlt⟩ := hword
    exact ⟨_, phaseIndex_of_le hwrites hlt (h i hwrites)⟩
  · refine ⟨_, phaseIndex_of_not_writes phases fun i hwrites => Nat.le_of_not_lt fun hlt => ?_⟩
    exact hword ⟨i, hwrites, hlt⟩

theorem nextPhase_of_lt {i phases : Nat} (h : i + 1 < phases) :
    nextPhase i phases = offsetMarker (i + 1) := by
  rw [nextPhase, if_pos h, offsetMarker_of_pos (Nat.succ_pos i)]

/-- Nothing comes after the last phase. -/
theorem nextPhase_of_le {i phases : Nat} (h : phases ≤ i + 1) : nextPhase i phases = none :=
  if_neg (Nat.not_lt_of_le h)

/-- The phase that a marker names, and the marker of the one after it. -/
def phaseAt (phases : List π) (marker : Option String) : Except Fault (π × Option String) :=
  match h : phaseIndex marker phases.length with
  | .error e => .error e
  | .ok i =>
    .ok (phases.get ⟨i, (phaseIndex_eq_ok_iff.mp h).2⟩, nextPhase i phases.length)

section

variable {phases : List π} {marker : Option String}

theorem phaseAt_of_index {phase : π} {i : Nat} (hindex : index "phase" marker = .ok i)
    (hphase : phases[i]? = some phase) :
    phaseAt phases marker = .ok (phase, nextPhase i phases.length) := by
  obtain ⟨hi, rfl⟩ := List.getElem?_eq_some_iff.mp hphase
  have hread := phaseIndex_eq_ok_iff.mpr ⟨hindex, hi⟩
  unfold phaseAt
  split
  · next e he =>
    rw [hread] at he
    cases he
  · next j hj =>
    obtain rfl : i = j := Except.ok.inj (hread.symm.trans hj)
    rfl

theorem phaseAt_of_error {e : Fault} (h : phaseIndex marker phases.length = .error e) :
    phaseAt phases marker = .error e := by
  unfold phaseAt
  split
  · next e' he =>
    exact congrArg _ (Except.error.inj (he.symm.trans h))
  · next j hj =>
    rw [h] at hj
    cases hj

end

/-- The roles of a vault are listed in such phases, one for each source. -/
theorem rolePhase_eq_phaseAt (marker : Option String) :
    Connector.rolePhase marker = phaseAt Vault.RoleSource.all marker := by
  cases hphase : phaseIndex marker Vault.RoleSource.all.length with
  | error e =>
    rw [phaseAt_of_error hphase, Connector.rolePhase, hphase]
  | ok i =>
    obtain ⟨hindex, hi⟩ := phaseIndex_eq_ok_iff.mp hphase
    have hcases : i = 0 ∨ i = 1 := by
      simp only [Vault.RoleSource.all, List.length_cons, List.length_nil] at hi
      omega
    rw [Connector.rolePhase, hphase]
    rcases hcases with rfl | rfl
    · exact (phaseAt_of_index hindex rfl).symm
    · exact (phaseAt_of_index hindex rfl).symm

/-! ## One call -/

/-- One page of a kind that is listed in phases. -/
def phasePage (kind : Kind) (phases : List π) (records : π → List ρ) (map : ρ → α)
    (cursor : String) : Except Fault (Page α) :=
  listPage cursor kind
    (fun marker => do
      let (phase, next) ← phaseAt phases marker
      return ⟨records phase, next⟩)
    map

section

variable {kind : Kind} {phases : List π} {text : String}

/-- A call at a phase hands out its records, and leads to the phase after it. -/
theorem phasePage_of_open (records : π → List ρ) (map : ρ → α) {marker : Option String}
    {phase : π} {i : Nat} (hopen : openCursor text kind = .ok ⟨[⟨kind, marker.getD ""⟩]⟩)
    (hmarker : marker ≠ some "") (hindex : index "phase" marker = .ok i)
    (hphase : phases[i]? = some phase) :
    phasePage kind phases records map text =
      .ok ⟨(records phase).map map, bookmark kind (nextPhase i phases.length)⟩ := by
  have hnext : nextPhase i phases.length ≠ some "" := by
    by_cases hmore : i + 1 < phases.length
    · rw [nextPhase_of_lt hmore]
      exact offsetMarker_ne_empty _
    · rw [nextPhase_of_le (Nat.le_of_not_lt hmore)]
      exact nofun
  have hopen' : openCursor text kind = .ok (Cursor.empty.push ⟨kind, marker.getD ""⟩) := hopen
  have hturn : turn ⟨[⟨kind, marker.getD ""⟩]⟩ map ⟨records phase, nextPhase i phases.length⟩ =
      ⟨(records phase).map map, bookmark kind (nextPhase i phases.length)⟩ :=
    turn_bookmark kind (marker.getD "") map hnext
  rw [phasePage, listPage_of_open hopen' hmarker, phaseAt_of_index hindex hphase]
  exact congrArg Except.ok hturn

/-- A call fails at a marker that is refused, whatever frames are below it. -/
theorem phasePage_of_refused (records : π → List ρ) (map : ρ → α) {c : Cursor} {m : String}
    {e : Fault} (hdecode : Cursor.decode text kind = .ok c) (htop : c.top? = some ⟨kind, m⟩)
    (hm : m ≠ "") (hrefused : phaseIndex (some m) phases.length = .error e) :
    phasePage kind phases records map text = .error e := by
  have hmarker : c.markerFor kind = some m := by
    simp only [Cursor.markerFor, htop, Option.map_some, if_true]
    exact filter_ne_empty_of_ne hm
  rw [phasePage, listPage_of_decode hdecode, hmarker, phaseAt_of_error hrefused]
  rfl

end

/-! ## Whole walks -/

/-- From every phase a walk takes one call for it and one for each phase after it. The induction is
on the phases left, of which the first is the one that the marker names. -/
theorem exists_phaseWalk (kind : Kind) {phases : List π} (records : π → List ρ) (map : ρ → α)
    (hcount : phases.length ≤ Decimal.wordLimit) {text : String} {marker : Option String} {i : Nat}
    (hopen : openCursor text kind = .ok ⟨[⟨kind, marker.getD ""⟩]⟩) (hmarker : marker ≠ some "")
    (hindex : index "phase" marker = .ok i) (hi : i < phases.length) (call : Nat) :
    ∃ pages, Walk (fun _ => phasePage kind phases records map) call text pages ∧
      pages.map Page.items = (phases.drop i).map fun phase => (records phase).map map := by
  induction hleft : phases.drop i generalizing text marker i call with
  | nil => exact absurd (List.drop_eq_nil_iff.mp hleft) (Nat.not_le_of_lt hi)
  | cons phase rest ih =>
    have hphase : phases[i]? = some phase := by rw [← List.head?_drop, hleft, List.head?_cons]
    have hrest : phases.drop (i + 1) = rest := by rw [← List.tail_drop, hleft, List.tail_cons]
    have hpage := phasePage_of_open records map hopen hmarker hindex hphase
    by_cases hmore : i + 1 < phases.length
    · have hword : i + 1 < Decimal.wordLimit := Nat.lt_of_lt_of_le hmore hcount
      rw [nextPhase_of_lt hmore] at hpage
      obtain ⟨pages, hwalk, hitems⟩ := ih (openCursor_bookmark kind (offsetMarker (i + 1)))
        (offsetMarker_ne_empty _) (index_offsetMarker "phase" hword) hmore (call + 1) hrest
      have hne : bookmark kind (offsetMarker (i + 1)) ≠ "" :=
        bookmark_offsetMarker_ne kind (Nat.succ_pos i)
      exact ⟨_, .more hpage hne hwalk, congrArg _ hitems⟩
    · have hlast : phases.length ≤ i + 1 := Nat.le_of_not_lt hmore
      obtain rfl : [] = rest := (List.drop_eq_nil_of_le hlast).symm.trans hrest
      rw [nextPhase_of_le hlast] at hpage
      exact ⟨_, .last hpage rfl, rfl⟩

/-- That a frame names a phase: its marker writes the index, or is empty at the first. -/
def Frame.NamesPhase (f : Frame) (i : Nat) : Prop :=
  Decimal.Writes f.marker i ∨ f.marker = "" ∧ i = 0

theorem Frame.NamesPhase.index {f : Frame} {i : Nat} (h : f.NamesPhase i)
    (hword : i < Decimal.wordLimit) : index "phase" f.marker? = .ok i := by
  rcases h with hwrites | ⟨hempty, rfl⟩
  · have hne : f.marker ≠ "" := fun hempty => Decimal.not_writes_empty (hempty ▸ hwrites)
    rw [Frame.marker?, if_neg hne]
    exact index_of_writes "phase" hwrites hword
  · rw [Frame.marker?, if_pos hempty]
    rfl

theorem Frame.marker?_ne_empty (f : Frame) : f.marker? ≠ some "" := by
  intro h
  obtain ⟨hne, hempty⟩ := Frame.marker?_eq_some_iff.mp h
  exact hne hempty

theorem Frame.getD_marker? (f : Frame) : f.marker?.getD "" = f.marker := by
  unfold Frame.marker?
  by_cases h : f.marker = "" <;> simp [h]

/-- From a cursor of one frame that names a phase a walk takes the calls from that phase on. -/
theorem exists_phaseWalk_of_names {phases : List π} (records : π → List ρ) (map : ρ → α)
    (hcount : phases.length ≤ Decimal.wordLimit) {text : String} {f : Frame} {i : Nat}
    (hdecode : Cursor.decode text f.kind = .ok ⟨[f]⟩) (hnames : f.NamesPhase i)
    (hi : i < phases.length) :
    ∃ pages, Walk (fun _ => phasePage f.kind phases records map) 0 text pages ∧
      pages.map Page.items = (phases.drop i).map fun phase => (records phase).map map := by
  have hframe : Cursor.decode text f.kind = .ok (Cursor.empty.push ⟨f.kind, f.marker⟩) := hdecode
  have hopen : openCursor text f.kind = .ok ⟨[⟨f.kind, f.marker?.getD ""⟩]⟩ := by
    rw [Frame.getD_marker?]
    exact openCursor_of_decode_push hframe
  exact exists_phaseWalk f.kind records map hcount hopen f.marker?_ne_empty
    (hnames.index (Nat.lt_of_lt_of_le hi hcount)) hi 0

/-- A walk over phases visits each once. From the start it takes one call for each phase, and every
call hands out the mapped records of its phase, also where there are none. From a frame that names a
phase it takes the calls from that phase on, and a marker that writes no index of a phase is
refused. The roles of a vault are listed in this way. Phases are kept in memory, so a machine word
counts them. -/
theorem phase_walk_visits_each (kind : Kind) {phases : List π} (hne : phases ≠ [])
    (hcount : phases.length ≤ Decimal.wordLimit) (records : π → List ρ) (map : ρ → α) :
    (∃ pages, Walk (fun _ => phasePage kind phases records map) 0 "" pages ∧
      pages.length = phases.length ∧
      (pages.map Page.items = phases.map fun phase => (records phase).map map) ∧
      pages.flatMap Page.items = (phases.flatMap records).map map) ∧
    (∀ (text : String) (f : Frame) (i : Nat), f.kind = kind →
      Cursor.decode text kind = .ok ⟨[f]⟩ → f.NamesPhase i → i < phases.length →
      ∃ pages, Walk (fun _ => phasePage kind phases records map) 0 text pages ∧
        pages.map Page.items = (phases.drop i).map fun phase => (records phase).map map) ∧
    (∀ m : String, (∀ i, Decimal.Writes m i → phases.length ≤ i) →
      ∃ reason, phaseIndex (some m) phases.length = .error (.cursor reason) ∧
        ∀ (text : String) (c : Cursor), Cursor.decode text kind = .ok c →
          c.top? = some ⟨kind, m⟩ → m ≠ "" →
          phasePage kind phases records map text = .error (.cursor reason)) ∧
    ∀ marker, Connector.rolePhase marker = phaseAt Vault.RoleSource.all marker := by
  refine ⟨?_, ?_, fun m hm => ?_, rolePhase_eq_phaseAt⟩
  · have hstart : (Frame.start kind).NamesPhase 0 := .inr ⟨rfl, rfl⟩
    obtain ⟨pages, hwalk, hitems⟩ := exists_phaseWalk_of_names records map hcount
      (Cursor.decode_empty kind) hstart (List.length_pos_iff.mpr hne)
    rw [List.drop_zero] at hitems
    refine ⟨pages, hwalk, ?_, hitems, ?_⟩
    · simpa using congrArg List.length hitems
    · rw [List.flatMap_def, hitems, List.map_flatMap, List.flatMap_def]
  · rintro text f i rfl hdecode hnames hi
    exact exists_phaseWalk_of_names records map hcount hdecode hnames hi
  · obtain ⟨reason, hrefused⟩ := exists_phaseIndex_error hm
    exact ⟨reason, hrefused, fun text c hdecode htop hempty =>
      phasePage_of_refused records map hdecode htop hempty hrefused⟩

/-- Three phases, of which the second holds nothing, take three calls from the start and one from
the last. There is no fourth. -/
theorem phase_walk_visits_each_of_three :
    let phases : List (List String) := [["a", "b"], [], ["cde"]]
    phases ≠ [] ∧ phases.length ≤ Decimal.wordLimit ∧
      (∃ pages, Walk (fun _ => phasePage .role phases id String.length) 0 "" pages ∧
        pages.length = 3 ∧ pages.map Page.items = [[1, 1], [], [3]] ∧
        pages.flatMap Page.items = [1, 1, 3]) ∧
      (∃ pages, Walk (fun _ => phasePage .role phases id String.length) 0
        (Cursor.encode ⟨[⟨.role, "+02"⟩]⟩) pages ∧ pages.map Page.items = [[3]]) ∧
      (∀ i, Decimal.Writes "3" i → phases.length ≤ i) ∧
      ∃ reason, phasePage .role phases id String.length
        (Cursor.encode ⟨[⟨.policy, "7"⟩, ⟨.role, "3"⟩]⟩) = .error (.cursor reason) := by
  intro phases
  have hne : phases ≠ [] := List.cons_ne_nil _ _
  have hcount : phases.length ≤ Decimal.wordLimit := by decide
  have hthree : ∀ i, Decimal.Writes "3" i → phases.length ≤ i := by
    intro i h
    by_contra hlt
    have hword : i < Decimal.wordLimit := Nat.lt_of_lt_of_le (Nat.lt_of_not_le hlt) hcount
    have hread : Decimal.word? "3" = some i := Decimal.word?_eq_some_iff.mpr ⟨h, hword⟩
    have hthree : Decimal.word? "3" = some 3 := by decide
    obtain rfl : 3 = i := Option.some.inj (hthree.symm.trans hread)
    exact hlt (Nat.le_refl 3)
  have htwo : Frame.NamesPhase ⟨.role, "+02"⟩ 2 :=
    .inl (Decimal.word?_eq_some_iff.mp (show Decimal.word? "+02" = some 2 by decide)).1
  obtain ⟨⟨pages, hwalk, hlength, hitems, hall⟩, hfrom, hrefused, -⟩ :=
    phase_walk_visits_each .role hne hcount id String.length
  obtain ⟨reason, -, hfails⟩ := hrefused "3" hthree
  refine ⟨hne, hcount, ⟨pages, hwalk, hlength, hitems, hall⟩, ?_, hthree, reason, ?_⟩
  · exact hfrom _ ⟨.role, "+02"⟩ 2 rfl (Cursor.decode_encode (List.cons_ne_nil _ _) .role) htwo
      (by decide)
  · exact hfails _ ⟨[⟨.policy, "7"⟩, ⟨.role, "3"⟩]⟩
      (Cursor.decode_encode (List.cons_ne_nil _ _) .role) rfl (by decide)

end VaultAccess.Paging
