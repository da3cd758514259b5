import VaultAccess.Proofs.Text.Percent
import VaultAccess.Url.Parse

/-!
# Paths as they are built

A path is built segment by segment: characters that cannot stand in it are escaped, and dot
segments lead back. What is added to a path therefore consists of characters that stay as they are,
and it is no longer than the text it was built from unless that text has others.
-/
namespace VaultAccess.Url

open Text

/-! ## Characters that stay -/

/-- Whether a character is written as it is where the given ones are escaped. -/
def stays (extra : List Char) (c : Char) : Bool :=
  0x20 ≤ c.toNat && c.toNat ≤ 0x7E && !extra.contains c

/-- Sets of characters among which those of an escape are not. -/
def KeepsEscapes (extra : List Char) : Prop :=
  stays extra '%' = true ∧ ∀ n < 16, stays extra (Char.ofNat (Percent.hexDigit n).toNat) = true

theorem keepsEscapes_nil : KeepsEscapes [] := by
  unfold KeepsEscapes
  decide

theorem keepsEscapes_pathSet : KeepsEscapes pathSet := by
  unfold KeepsEscapes
  decide

variable {extra : List Char}

theorem toNat_ofNat_byte (b : UInt8) : (Char.ofNat b.toNat).toNat = b.toNat := by
  have hall : ∀ n < 256, (Char.ofNat n).toNat = n := by decide +kernel
  exact hall b.toNat b.toNat_lt

theorem isEscaped_eq_false_iff {b : UInt8} :
    isEscaped extra b = false ↔ stays extra (Char.ofNat b.toNat) = true := by
  have hcontains : (extra.any fun c => c.toNat == b.toNat) = extra.contains (Char.ofNat b.toNat) := by
    rw [Bool.eq_iff_iff, List.any_eq_true, List.contains_iff_mem]
    constructor
    · rintro ⟨c, hc, heq⟩
      rw [beq_iff_eq] at heq
      rwa [← heq, Char.ofNat_toNat]
    · intro hc
      exact ⟨_, hc, by rw [toNat_ofNat_byte, beq_self_eq_true]⟩
  rw [isEscaped, stays, hcontains, toNat_ofNat_byte]
  simp only [Bool.or_eq_false_iff, Bool.and_eq_true, decide_eq_false_iff_not, decide_eq_true_eq,
    Bool.not_eq_true', UInt8.lt_iff_toNat_lt, Nat.not_lt]
  exact Iff.rfl

theorem escapeChar_of_stays {c : Char} (h : stays extra c = true) : escapeChar extra c = [c] := by
  have hrange : c.toNat < 128 := by
    simp only [stays, Bool.and_eq_true, decide_eq_true_eq] at h
    omega
  have hbyte : (UInt8.ofNat c.toNat).toNat = c.toNat := Utf8.toNat_ofNat_of_lt (by omega)
  have hkept : isEscaped extra (UInt8.ofNat c.toNat) = false := by
    rwa [isEscaped_eq_false_iff, hbyte, Char.ofNat_toNat]
  rw [escapeChar, Utf8.encodeChar_ascii hrange, List.flatMap_singleton, hkept]
  simp [hbyte]

theorem stays_of_mem_escapeChar (hextra : KeepsEscapes extra) {c x : Char}
    (h : x ∈ escapeChar extra c) : stays extra x = true := by
  obtain ⟨b, -, hx⟩ := List.mem_flatMap.mp h
  cases hescaped : isEscaped extra b with
  | false =>
    rw [hescaped] at hx
    rw [List.mem_singleton.mp hx]
    exact isEscaped_eq_false_iff.mp hescaped
  | true =>
    have hb := b.toNat_lt
    rw [hescaped, if_pos rfl, Percent.escape] at hx
    simp only [List.map_cons, List.map_nil, List.mem_cons, List.not_mem_nil, or_false] at hx
    rcases hx with rfl | rfl | rfl
    · exact hextra.1
    · exact hextra.2 _ (by omega)
    · exact hextra.2 _ (by omega)

theorem escapeChars_of_stays {cs : List Char} (h : ∀ c ∈ cs, stays extra c = true) :
    escapeChars extra cs = cs := by
  induction cs with
  | nil => rfl
  | cons c cs ih =>
    obtain ⟨hc, hcs⟩ := List.forall_mem_cons.mp h
    have hrest := ih hcs
    rw [escapeChars] at hrest ⊢
    rw [List.flatMap_cons, escapeChar_of_stays hc, hrest, List.singleton_append]

theorem stays_of_mem_escapeChars (hextra : KeepsEscapes extra) {cs : List Char} {x : Char}
    (h : x ∈ escapeChars extra cs) : stays extra x = true := by
  obtain ⟨c, -, hx⟩ := List.mem_flatMap.mp h
  exact stays_of_mem_escapeChar hextra hx

theorem stays_slash : stays pathSet '/' = true := by decide

/-! ## One segment -/

theorem dropEnd_isPrefix (p : Char → Bool) (cs : List Char) : dropEnd p cs <+: cs := by
  rw [dropEnd, ← List.reverse_suffix, List.reverse_reverse]
  exact List.dropWhile_suffix p

theorem above_isPrefix (path : List Char) : above path <+: path := by
  rw [above, upToSlash]
  split
  · exact (dropEnd_isPrefix _ _).trans (List.dropLast_prefix path)
  · exact dropEnd_isPrefix _ _

theorem length_above_le (path : List Char) : (above path).length ≤ path.length :=
  (above_isPrefix path).length_le

theorem mem_drop_mono {path longer : List Char} (h : path <+: longer) {n : Nat} {x : Char}
    (hx : x ∈ path.drop n) : x ∈ longer.drop n := by
  obtain ⟨rest, rfl⟩ := h
  rw [List.drop_append]
  exact List.mem_append_left _ hx

theorem mem_drop_append {path added : List Char} {n : Nat} {x : Char}
    (hx : x ∈ (path ++ added).drop n) : x ∈ path.drop n ∨ x ∈ added := by
  rw [List.drop_append] at hx
  rcases List.mem_append.mp hx with hx | hx
  · exact .inl hx
  · exact .inr (List.mem_of_mem_drop hx)

variable {path segment : List Char} {hasSlash : Bool}

/-- That all characters of a path from some place on stay as they are. -/
def StaysFrom (n : Nat) (path : List Char) : Prop := ∀ x ∈ path.drop n, stays pathSet x = true

theorem StaysFrom.mono {n : Nat} {longer : List Char} (h : StaysFrom n longer)
    (hlonger : path <+: longer) : StaysFrom n path :=
  fun x hx => h x (mem_drop_mono hlonger hx)

theorem StaysFrom.append {n : Nat} (h : StaysFrom n path) {added : List Char}
    (hadded : ∀ x ∈ added, stays pathSet x = true) : StaysFrom n (path ++ added) := by
  intro x hx
  rcases mem_drop_append hx with hx | hx
  · exact h x hx
  · exact hadded x hx

theorem staysFrom_length (path : List Char) : StaysFrom path.length path := by
  intro x hx
  rw [List.drop_length] at hx
  exact (List.not_mem_nil hx).elim

theorem stays_of_mem_slash {x : Char} (hx : x ∈ ['/']) : stays pathSet x = true := by
  rw [List.mem_singleton.mp hx]
  exact stays_slash

/-- What a segment adds to a path stays as it is. -/
theorem StaysFrom.addSegment {n : Nat} (h : StaysFrom n path) :
    StaysFrom n (addSegment path segment hasSlash) := by
  unfold Url.addSegment
  split
  · have habove := h.mono (above_isPrefix path)
    dsimp only
    split
    · exact habove.append fun x hx => stays_of_mem_slash hx
    · exact habove
  · split
    · split
      · exact h
      · exact h.append fun x hx => stays_of_mem_slash hx
    · refine (h.append fun x hx => stays_of_mem_escapeChars keepsEscapes_pathSet hx).append ?_
      cases hasSlash with
      | false => exact fun x hx => (List.not_mem_nil hx).elim
      | true => exact fun x hx => stays_of_mem_slash hx

theorem ne_nil_of_isHere (h : isHere segment = true) : segment ≠ [] := by
  rintro rfl
  revert h
  decide

/-- A segment of characters that stay makes a path longer by itself at most. -/
theorem length_addSegment_le (path : List Char) (hasSlash : Bool)
    (h : ∀ c ∈ segment, stays pathSet c = true) :
    (addSegment path segment hasSlash).length ≤ path.length + segment.length + hasSlash.toNat := by
  have habove := length_above_le path
  unfold addSegment
  split
  · dsimp only
    split
    · next hslash =>
      rw [List.length_append, hslash.1]
      simp only [List.length_singleton, Bool.toNat_true]
      omega
    · omega
  · split
    · next hhere =>
      have hpos := List.length_pos_iff.mpr (ne_nil_of_isHere hhere)
      split
      · omega
      · rw [List.length_append, List.length_singleton]
        omega
    · rw [escapeChars_of_stays h, List.length_append, List.length_append]
      cases hasSlash <;> simp

/-- A path that starts with a slash goes on doing so. -/
theorem head?_addSegment (h : path.head? = some '/') :
    (addSegment path segment hasSlash).head? = some '/' := by
  have hup {q : List Char} (hq : q.head? = some '/') : (upToSlash q).head? = some '/' := by
    obtain ⟨rest, rfl⟩ : ∃ rest, q = '/' :: rest := by
      cases q with
      | nil => cases hq
      | cons c rest => exact ⟨rest, by rw [List.head?_cons, Option.some.injEq] at hq; rw [hq]⟩
    rw [upToSlash, dropEnd, List.reverse_cons, List.dropWhile_append]
    split
    · rfl
    · simp
  have habove : (above path).head? = some '/' := by
    rw [above]
    split
    · next hbelow =>
      refine hup ?_
      simp only [Bool.and_eq_true, List.contains_iff_mem] at hbelow
      cases path with
      | nil => cases h
      | cons c rest =>
        cases rest with
        | nil => exact absurd hbelow.1.2 List.not_mem_nil
        | cons d rest => exact h
    · exact hup h
  have happend {q added : List Char} (hq : q.head? = some '/') :
      (q ++ added).head? = some '/' := by
    rw [List.head?_append, hq]
    rfl
  unfold addSegment
  split
  · dsimp only
    split
    · exact happend habove
    · exact habove
  · split
    · split
      · exact h
      · exact happend h
    · exact happend (happend h)

/-- Whether a segment leads back or nowhere. -/
def isDots (segment : List Char) : Bool := isHere segment || isAbove segment

/-- Any other segment is added as it is. -/
theorem addSegment_of_stays (h : ∀ c ∈ segment, stays pathSet c = true)
    (hdots : isDots segment = false) :
    addSegment path segment hasSlash = path ++ segment ++ if hasSlash then ['/'] else [] := by
  rw [isDots, Bool.or_eq_false_iff] at hdots
  rw [addSegment, if_neg (by simp [hdots.2]), if_neg (by simp [hdots.1]), escapeChars_of_stays h]

/-! ## Segments in order -/

/-- The path after several more segments with slashes between them. -/
def addAll (path : List Char) : List (List Char) → List Char
  | [] => path
  | [s] => addSegment path s false
  | s :: t :: rest => addAll (addSegment path s true) (t :: rest)

theorem addSegments_eq (isSpecial : Bool) (start cs : List Char) :
    addSegments isSpecial start cs =
      addAll start (fields '/' (cs.map fun c => if isSlash isSpecial c then '/' else c)) := by
  have hall (segments : List (List Char)) (hne : segments ≠ []) (path : List Char) :
      addSegment (segments.dropLast.foldl (fun path s => addSegment path s true) path)
        (segments.getLastD []) false = addAll path segments := by
    induction segments generalizing path with
    | nil => exact absurd rfl hne
    | cons s rest ih =>
      cases rest with
      | nil => rfl
      | cons t rest => exact ih (List.cons_ne_nil _ _) _
  exact hall _ (fields_ne_nil '/' _) start

/-- The text of fields with separators between them. -/
theorem intercalate_fields (sep : Char) (cs : List Char) :
    List.intercalate [sep] (fields sep cs) = cs := by
  induction cs with
  | nil => rfl
  | cons c cs ih =>
    obtain ⟨f, fs, hf⟩ := List.exists_cons_of_ne_nil (fields_ne_nil sep cs)
    rw [hf] at ih
    by_cases hc : c = sep
    · simp [fields, hf, hc, List.intercalate_cons_cons, ih]
    · have hcons : List.intercalate [sep] ((c :: f) :: fs) = c :: List.intercalate [sep] (f :: fs) := by
        cases fs <;> simp [List.intercalate_cons_cons, List.intercalate_singleton]
      simp only [fields, hf, if_neg hc, hcons, ih]

theorem StaysFrom.addAll {n : Nat} (h : StaysFrom n path) (segments : List (List Char)) :
    StaysFrom n (addAll path segments) := by
  fun_induction Url.addAll path segments with
  | case1 => exact h
  | case2 => exact h.addSegment
  | case3 path s t rest ih => exact ih h.addSegment

theorem head?_addAll (h : path.head? = some '/') (segments : List (List Char)) :
    (addAll path segments).head? = some '/' := by
  fun_induction addAll path segments with
  | case1 => exact h
  | case2 => exact head?_addSegment h
  | case3 path s t rest ih => exact ih (head?_addSegment h)

theorem length_addAll_le (path : List Char) {segments : List (List Char)}
    (h : ∀ s ∈ segments, ∀ c ∈ s, stays pathSet c = true) :
    (addAll path segments).length ≤ path.length + (List.intercalate ['/'] segments).length := by
  fun_induction addAll path segments with
  | case1 => simp
  | case2 path s =>
    have hs := length_addSegment_le path false (h s (by simp))
    simpa using hs
  | case3 path s t rest ih =>
    have hs := length_addSegment_le path true (h s (by simp))
    have hrest := ih fun s hs => h s (List.mem_cons_of_mem _ hs)
    rw [List.intercalate_cons_cons, List.length_append, List.length_append]
    simp only [Bool.toNat_true, List.length_singleton] at hs ⊢
    omega

theorem addAll_of_stays {segments : List (List Char)}
    (h : ∀ s ∈ segments, ∀ c ∈ s, stays pathSet c = true)
    (hdots : ∀ s ∈ segments, isDots s = false) :
    addAll path segments = path ++ List.intercalate ['/'] segments := by
  fun_induction addAll path segments with
  | case1 => simp
  | case2 path s =>
    rw [addSegment_of_stays (h s (by simp)) (hdots s (by simp))]
    simp
  | case3 path s t rest ih =>
    rw [ih (fun s hs => h s (List.mem_cons_of_mem _ hs))
      (fun s hs => hdots s (List.mem_cons_of_mem _ hs)),
      addSegment_of_stays (h s (by simp)) (hdots s (by simp)), List.intercalate_cons_cons]
    simp

/-! ## Texts as paths -/

theorem mem_of_mem_fields {sep c : Char} {cs s : List Char} (hs : s ∈ fields sep cs)
    (hc : c ∈ s) : c ∈ cs := by
  induction cs generalizing s with
  | nil =>
    rw [fields, List.mem_singleton] at hs
    exact (List.not_mem_nil (hs ▸ hc)).elim
  | cons x xs ih =>
    obtain ⟨f, fs, hf⟩ := List.exists_cons_of_ne_nil (fields_ne_nil sep xs)
    rw [hf] at ih
    simp only [fields, hf] at hs
    split at hs
    · rcases List.mem_cons.mp hs with rfl | hs
      · exact (List.not_mem_nil hc).elim
      · exact List.mem_cons_of_mem x (ih hs hc)
    · rcases List.mem_cons.mp hs with rfl | hs
      · rcases List.mem_cons.mp hc with rfl | hc
        · exact List.mem_cons_self
        · exact List.mem_cons_of_mem x (ih List.mem_cons_self hc)
      · exact List.mem_cons_of_mem x (ih (List.mem_cons_of_mem f hs) hc)

variable {isSpecial : Bool} {start cs : List Char}

theorem StaysFrom.addSegments {n : Nat} (h : StaysFrom n start) (isSpecial : Bool)
    (cs : List Char) : StaysFrom n (addSegments isSpecial start cs) := by
  rw [addSegments_eq]
  exact h.addAll _

theorem head?_addSegments (h : start.head? = some '/') :
    (addSegments isSpecial start cs).head? = some '/' := by
  rw [addSegments_eq]
  exact head?_addAll h _

theorem stays_slashed (h : ∀ c ∈ cs, stays pathSet c = true) :
    ∀ c ∈ cs.map (fun c => if isSlash isSpecial c then '/' else c), stays pathSet c = true := by
  intro x hx
  obtain ⟨c, hc, rfl⟩ := List.mem_map.mp hx
  split
  · exact stays_slash
  · exact h c hc

/-- A text of characters that stay makes a path longer by itself at most. -/
theorem length_addSegments_le (isSpecial : Bool) (start : List Char)
    (h : ∀ c ∈ cs, stays pathSet c = true) :
    (addSegments isSpecial start cs).length ≤ start.length + cs.length := by
  have hlength := length_addAll_le start
    fun s (hs : s ∈ fields '/' (cs.map fun c => if isSlash isSpecial c then '/' else c)) c hc =>
      stays_slashed h c (mem_of_mem_fields hs hc)
  rwa [intercalate_fields, List.length_map, ← addSegments_eq] at hlength

/-- A text without dot segments and backslashes is added as it is. -/
theorem addSegments_of_stays (h : ∀ c ∈ cs, stays pathSet c = true) (hback : '\\' ∉ cs)
    (hdots : ∀ s ∈ fields '/' cs, isDots s = false) :
    addSegments isSpecial start cs = start ++ cs := by
  have hslashed : cs.map (fun c => if isSlash isSpecial c then '/' else c) = cs := by
    refine (List.map_congr_left fun c hc => ?_).trans (List.map_id cs)
    have hne : c ≠ '\\' := fun heq => hback (heq ▸ hc)
    simp only [isSlash, id, Bool.or_eq_true, Bool.and_eq_true, beq_iff_eq, hne, and_false, or_false]
    split
    · next heq => exact heq.symm
    · rfl
  rw [addSegments_eq, hslashed, addAll_of_stays (fun s hs c hc => h c (mem_of_mem_fields hs hc))
    hdots, intercalate_fields]

theorem staysFrom_root : StaysFrom 0 ['/'] := fun _ hx => stays_of_mem_slash hx

/-- The path of a URL with a host consists of characters that stay. -/
theorem stays_of_mem_rootedPath {x : Char} (hx : x ∈ rootedPath isSpecial cs) :
    stays pathSet x = true := by
  unfold rootedPath at hx
  split at hx
  · split at hx
    · exact staysFrom_root.addSegments _ _ x hx
    · exact stays_of_mem_slash hx
  · split at hx
    · exact (List.not_mem_nil hx).elim
    · exact staysFrom_root.addSegments _ _ x hx
    · exact staysFrom_root.addSegments _ _ x hx

theorem length_rootedPath_le (isSpecial : Bool) (h : ∀ c ∈ cs, stays pathSet c = true) :
    (rootedPath isSpecial cs).length ≤ cs.length + 1 := by
  have hroot (isSpecial : Bool) {rest : List Char} (hrest : ∀ c ∈ rest, stays pathSet c = true) :
      (addSegments isSpecial ['/'] rest).length ≤ rest.length + 1 := by
    have hlength := length_addSegments_le isSpecial ['/'] hrest
    rw [List.length_singleton] at hlength
    omega
  unfold rootedPath
  split
  · split
    · next c rest =>
      split
      · have hlength := hroot true fun c hc => h c (List.mem_cons_of_mem _ hc)
        rw [List.length_cons]
        omega
      · exact hroot _ h
    · exact Nat.le_refl _
  · split
    · exact Nat.zero_le _
    · next rest =>
      have hlength := hroot false fun c hc => h c (List.mem_cons_of_mem _ hc)
      rw [List.length_cons]
      omega
    · exact hroot _ h

end VaultAccess.Url
