import Mathlib.Data.List.TakeWhile
import VaultAccess.Proofs.Lookup
import VaultAccess.Proofs.Url.Paths

/-!
# Joining

What joining a text to a URL can lead to. Wherever the path of the result ends in the whole text, the
text was nothing but a path: a scheme, a host or a place above the base takes characters from it
that the path then lacks, and a path never has more characters than stay of its text.
-/
namespace VaultAccess.Url

open Text

/-- That a path was built from a text after the characters it already had: those that were added
stay as they are, and there are no more of them than the text has, unless it has others. -/
def Built (kept : Nat) (text path : List Char) : Prop :=
  ∃ extra, (∀ x ∈ path.drop kept, stays extra x = true) ∧
    ((∀ c ∈ text, stays extra c = true) → path.length ≤ kept + text.length)

variable {text relative front : List Char} {isSpecial : Bool}

/-- A path that ends in a text was built from no less than it. -/
theorem Built.length_le {kept : Nat} (h : Built kept text (front ++ relative))
    (hkept : kept ≤ front.length) (hsub : text.Sublist relative) :
    front.length + relative.length ≤ kept + text.length := by
  obtain ⟨extra, hstays, hlength⟩ := h
  have hrelative : ∀ c ∈ relative, stays extra c = true := by
    intro c hc
    refine hstays c ?_
    rw [List.drop_append_of_le_length hkept]
    exact List.mem_append_right _ hc
  have hle := hlength fun c hc => hrelative c (hsub.subset hc)
  rwa [List.length_append] at hle

theorem built_rootedPath (isSpecial : Bool) (text : List Char) :
    Built 1 text (rootedPath isSpecial text) := by
  refine ⟨pathSet, fun x hx => stays_of_mem_rootedPath (List.mem_of_mem_drop hx), fun h => ?_⟩
  have hlength := length_rootedPath_le isSpecial h
  omega

theorem built_addSegments (isSpecial : Bool) (start text : List Char) :
    Built start.length text (addSegments isSpecial start text) := by
  exact ⟨pathSet, (staysFrom_length start).addSegments _ _, length_addSegments_le isSpecial start⟩

/-! ## What stands before a path -/

theorem isPrefix_of_tailOf {isSpecial : Bool} {cs path : List Char} {query fragment : Option String}
    (h : tailOf isSpecial cs = (path, query, fragment)) : path <+: cs := by
  have hpath : (tailOf isSpecial cs).1 = path := by rw [h]
  exact hpath ▸ List.takeWhile_prefix _

theorem hostAhead_isSuffix (isInside : Bool) (cs : List Char) :
    (hostAhead isInside cs).2 <:+ cs := by
  induction cs generalizing isInside with
  | nil => exact List.suffix_refl _
  | cons c rest ih =>
    rw [hostAhead]
    split
    · exact List.suffix_refl _
    · exact (ih _).trans (List.suffix_cons c rest)

variable {scheme : String} {cs : List Char} {base url : Url}

/-- The path of a URL with an authority starts at a root and is what some of the text leads to. -/
theorem exists_of_ofAuthority (h : ofAuthority scheme cs = .ok url) :
    ∃ text, text.Sublist cs ∧
      url.path = String.ofList (rootedPath (isSpecialScheme scheme) text) ∧
      url.isRootless = false := by
  unfold ofAuthority at h
  extract_lets isSpecial place after hostAndPort beforeHost afterPlace at h
  split at h
  · cases h
  unfold afterPlace at h
  split at h
  split at h
  next hostText portText hahead =>
  extract_lets digits afterHost afterText at h
  split at h
  · cases h
  unfold afterText at h
  obtain ⟨host, h⟩ : ∃ host, afterHost host = .ok url := by
    split at h
    · obtain ⟨host, -, h⟩ := ok_of_bind h
      exact ⟨host, h⟩
    · obtain ⟨host, -, h⟩ := ok_of_bind h
      exact ⟨host, h⟩
  unfold afterHost at h
  obtain ⟨port, -, h⟩ := ok_of_bind h
  extract_lets afterPort at h
  split at h
  · cases h
  unfold afterPort at h
  split at h
  next pathText query fragment htail =>
  cases h
  -- What comes before the path is taken from the text in order.
  have hport : portText.Sublist place := by
    have hsuffix := hostAhead_isSuffix false hostAndPort
    rw [hahead] at hsuffix
    refine hsuffix.sublist.trans ?_
    rw [← List.reverse_sublist, List.reverse_reverse]
    exact List.takeWhile_sublist _
  have hwhole : (portText.drop (1 + digits.length) ++ after).Sublist cs := by
    have hcs : place ++ after = cs :=
      List.prefix_iff_eq_append.mp (List.takeWhile_prefix _)
    exact hcs ▸ ((List.drop_sublist _ _).trans hport).append_right after
  exact ⟨pathText, (isPrefix_of_tailOf htail).sublist.trans hwhole, rfl, rfl⟩

theorem ofAuthority_built (h : ofAuthority scheme cs = .ok url) :
    ∃ text, text.Sublist cs ∧ Built 1 text url.path.toList := by
  obtain ⟨text, hsub, hpath, -⟩ := exists_of_ofAuthority h
  refine ⟨text, hsub, ?_⟩
  rw [hpath, String.toList_ofList]
  exact built_rootedPath _ text

/-! ## Files -/

theorem two_le_of_isDriveAhead {path : List Char} (h : isDriveAhead path = true) :
    ∃ c d rest, path = c :: d :: rest ∧ c.isAlpha = true := by
  match path, h with
  | [], h => cases h
  | [c], h => cases h
  | c :: d :: rest, h =>
    simp only [isDriveAhead, List.take_succ_cons, List.take_zero, isDrive, Bool.and_eq_true] at h
    exact ⟨c, d, rest, rfl, h.1.1⟩

theorem withColon_cases (path : List Char) :
    withColon path = path ∧ isDriveAhead path = false ∨
      ∃ c d rest, c.isAlpha = true ∧ path = c :: d :: rest ∧ withColon path = c :: ':' :: rest := by
  cases hdrive : isDriveAhead path with
  | false => exact .inl ⟨by rw [withColon, hdrive]; rfl, rfl⟩
  | true =>
    obtain ⟨c, d, rest, rfl, hc⟩ := two_le_of_isDriveAhead hdrive
    exact .inr ⟨c, d, rest, hc, rfl, by rw [withColon, hdrive]; rfl⟩

theorem length_withColon (path : List Char) : (withColon path).length = path.length := by
  obtain ⟨heq, -⟩ | ⟨c, d, rest, -, rfl, heq⟩ := withColon_cases path <;> rw [heq]
  rfl

theorem stays_withColon {path : List Char} (h : ∀ x ∈ path, stays pathSet x = true) :
    ∀ x ∈ withColon path, stays pathSet x = true := by
  obtain ⟨heq, -⟩ | ⟨c, d, rest, -, rfl, heq⟩ := withColon_cases path <;> rw [heq]
  · exact h
  · intro x hx
    rcases List.mem_cons.mp hx with rfl | hx
    · exact h x List.mem_cons_self
    rcases List.mem_cons.mp hx with rfl | hx
    · decide
    · exact h x (List.mem_cons_of_mem _ (List.mem_cons_of_mem _ hx))

theorem exists_rootedPath (text : List Char) : ∃ rest, rootedPath true text = '/' :: rest := by
  have hhead : (rootedPath true text).head? = some '/' := by
    unfold rootedPath
    rw [if_pos rfl]
    split
    · exact head?_addSegments rfl
    · rfl
  cases hpath : rootedPath true text with
  | nil =>
    rw [hpath] at hhead
    cases hhead
  | cons c rest =>
    rw [hpath, List.head?_cons, Option.some.injEq] at hhead
    exact ⟨rest, by rw [hhead]⟩

theorem built_filePath (text : List Char) :
    Built 1 text ('/' :: withColon ((rootedPath true text).dropWhile (· == '/'))) := by
  obtain ⟨rest, hrest⟩ := exists_rootedPath text
  have hsub : ((rootedPath true text).dropWhile (· == '/')).Sublist rest := by
    rw [hrest, List.dropWhile_cons_of_pos (by rfl)]
    exact List.dropWhile_sublist _
  refine ⟨pathSet, stays_withColon fun x hx => ?_, fun h => ?_⟩
  · have hmem : x ∈ rootedPath true text := by
      rw [hrest]
      exact List.mem_cons_of_mem _ (hsub.subset hx)
    exact stays_of_mem_rootedPath hmem
  · have hle := length_rootedPath_le true h
    have hdropped := hsub.length_le
    rw [hrest, List.length_cons] at hle
    rw [List.length_cons, length_withColon]
    omega

/-- The path of a file is built from what comes after the place of its host, which two slashes
introduce. -/
theorem ofFile_built (h : ofFile cs = .ok url) :
    ∃ text path, text.Sublist cs ∧ Built 1 text url.path.toList ∧
      url.path.toList = '/' :: withColon path ∧ url.isRootless = false ∧
      (2 ≤ (cs.takeWhile (isSlash true)).length → text.length + 2 ≤ cs.length) := by
  unfold ofFile at h
  split at h
  next place after hahead =>
  have hafter : after.Sublist cs ∧
      (2 ≤ (cs.takeWhile (isSlash true)).length → after.length + 2 ≤ cs.length) := by
    split at hahead
    · next a b rest =>
      split at hahead
      · next hslashes =>
        have hrest : after.Sublist rest := by
          dsimp only at hahead
          split at hahead
          · cases hahead
            exact List.Sublist.refl _
          · cases hahead
            exact List.drop_sublist _ _
        refine ⟨(hrest.cons b).cons a, fun _ => ?_⟩
        have hle := hrest.length_le
        simp only [List.length_cons]
        omega
      · next hslashes =>
        cases hahead
        refine ⟨List.Sublist.refl _, fun htwo => absurd ?_ hslashes⟩
        by_cases ha : isSlash true a = true <;> by_cases hb : isSlash true b = true <;>
          simp [ha, hb] at htwo ⊢
    · next hshort =>
      cases hahead
      refine ⟨List.Sublist.refl _, fun htwo => ?_⟩
      have hle := (List.takeWhile_sublist (isSlash true) (l := cs)).length_le
      match cs, hshort with
      | [], _ => cases htwo
      | [c], _ => exact absurd (Nat.le_trans htwo hle) (Nat.not_succ_le_self 1)
      | a :: b :: rest, hshort => exact absurd rfl (hshort a b rest)
  extract_lets afterHost at h
  obtain ⟨host, h⟩ : ∃ host, afterHost host = .ok url := by
    split at h
    · exact ⟨none, h⟩
    · obtain ⟨host, -, h⟩ := ok_of_bind h
      exact ⟨host, h⟩
  unfold afterHost at h
  split at h
  next pathText query fragment htail =>
  cases h
  have htext := isPrefix_of_tailOf htail
  refine ⟨pathText, _, htext.sublist.trans hafter.1, ?_, String.toList_ofList, rfl,
    fun htwo => ?_⟩
  · rw [String.toList_ofList]
    exact built_filePath pathText
  · have hle := htext.length_le
    have hshorter := hafter.2 htwo
    omega

/-! ## After a scheme -/

theorem ofRest_built (scheme : String) (cs : List Char) :
    ∃ text, text.Sublist cs ∧ Built 1 text (ofRest scheme cs).path.toList := by
  unfold ofRest
  split
  next pathText query fragment htail =>
  refine ⟨pathText, (isPrefix_of_tailOf htail).sublist, ?_⟩
  extract_lets path
  rw [String.toList_ofList]
  unfold path
  split
  · next rest =>
    refine ⟨pathSet, fun x hx => ?_, fun h => ?_⟩
    · exact staysFrom_root.addSegments false rest x (List.mem_of_mem_drop hx)
    · have hle := length_addSegments_le false ['/'] fun c hc => h c (List.mem_cons_of_mem _ hc)
      simp only [List.length_cons, List.length_nil] at hle ⊢
      omega
  · refine ⟨[], fun x hx => ?_, fun h => ?_⟩
    · exact stays_of_mem_escapeChars keepsEscapes_nil (List.mem_of_mem_drop hx)
    · rw [escapeChars_of_stays h]
      omega

theorem ofScheme_built (h : ofScheme scheme cs = .ok url) :
    ∃ text, text.Sublist cs ∧ Built 1 text url.path.toList := by
  unfold ofScheme at h
  split at h
  · obtain ⟨text, -, hsub, hbuilt, -⟩ := ofFile_built h
    exact ⟨text, hsub, hbuilt⟩
  split at h
  · obtain ⟨text, hsub, hbuilt⟩ := ofAuthority_built h
    exact ⟨text, hsub.trans (List.dropWhile_sublist _), hbuilt⟩
  split at h
  · next rest =>
    obtain ⟨text, hsub, hbuilt⟩ := ofAuthority_built h
    exact ⟨text, (hsub.cons '/').cons '/', hbuilt⟩
  · cases h
    exact ofRest_built scheme cs

/-! ## Beside a URL -/

/-- What a text without a scheme leads to beside a URL: the path that was there, a path built from
less than the text, a drive, or a path that goes on from the last slash of the one before. -/
theorem beside_cases (h : base.beside cs = .ok url) :
    url.path = base.path ∨
    (∃ text, text.Sublist cs ∧ text.length + 1 ≤ cs.length ∧ Built 1 text url.path.toList) ∨
    (∃ text path, isDriveAhead cs = true ∧ text.Sublist cs ∧ Built 1 text url.path.toList ∧
      url.path.toList = '/' :: withColon path) ∨
    ∃ isSpecial, url = { base with
      path := String.ofList
        (addSegments isSpecial (upToSlash base.path.toList) (tailOf isSpecial cs).1)
      query := (tailOf isSpecial cs).2.1
      fragment := (tailOf isSpecial cs).2.2 } := by
  unfold beside at h
  extract_lets isSpecial slashes at h
  split at h
  next pathText query fragment htail =>
  split at h
  · cases h
    exact .inl rfl
  · cases h
    exact .inl rfl
  · cases h
    exact .inl rfl
  next c rest _ _ =>
  split at h
  · next hfile =>
    obtain ⟨text, path, hsub, hbuilt, hpath, -, hshorter⟩ := ofFile_built h
    rcases hfile.2 with htwo | hdrive
    · have hle := hshorter htwo
      exact .inr (.inl ⟨text, hsub, by omega, hbuilt⟩)
    · exact .inr (.inr (.inl ⟨text, path, hdrive, hsub, hbuilt, hpath⟩))
  split at h
  · next htwo =>
    obtain ⟨text, hsub, hbuilt⟩ := ofAuthority_built h
    have hless : text.Sublist rest := by
      split at hsub
      · exact hsub.trans (List.drop_sublist _ _)
      · obtain ⟨n, hn⟩ := Nat.exists_eq_add_of_le htwo
        rw [hn, Nat.add_comm, List.drop_succ_cons] at hsub
        exact hsub.trans (List.drop_sublist _ _)
    exact .inr (.inl ⟨text, hless.cons c, Nat.succ_le_succ hless.length_le, hbuilt⟩)
  cases hc : isSlash true c with
  | true =>
    rw [hc, if_pos rfl, if_pos rfl] at h
    cases h
    have htext := isPrefix_of_tailOf htail
    refine .inr (.inl ⟨pathText.drop 1, (List.drop_sublist _ _).trans htext.sublist, ?_, ?_⟩)
    · have hle := htext.length_le
      rw [List.length_drop]
      simp only [List.length_cons] at hle ⊢
      omega
    · rw [String.toList_ofList]
      exact built_addSegments isSpecial ['/'] (pathText.drop 1)
  | false =>
    rw [hc, if_neg Bool.false_ne_true, if_neg Bool.false_ne_true] at h
    cases h
    exact .inr (.inr (.inr ⟨isSpecial, by rw [htail]⟩))

/-! ## Joining -/

theorem tailOf_of_stays (isSpecial : Bool) {cs : List Char}
    (h : ∀ c ∈ cs, stays pathSet c = true) : tailOf isSpecial cs = (cs, none, none) := by
  have hwhole : cs.takeWhile (fun c => c != '?' && c != '#') = cs := by
    refine List.takeWhile_eq_self_iff.mpr fun c hc => ?_
    have hstays := h c hc
    by_cases hquery : c = '?'
    · subst hquery
      exact absurd hstays (by decide)
    by_cases hfragment : c = '#'
    · subst hfragment
      exact absurd hstays (by decide)
    simp [hquery, hfragment]
  unfold tailOf
  simp [hwhole]

theorem schemeAhead?_drive {c : Char} (hc : c.isAlpha = true) (rest : List Char) :
    schemeAhead? (c :: ':' :: rest) = some (String.ofList [c.toLower], rest) := by
  have hname : (c :: ':' :: rest).takeWhile
      (fun c => c.isAlphanum || c == '+' || c == '-' || c == '.') = [c] := by
    rw [List.takeWhile_cons_of_pos (by simp [Char.isAlphanum, hc]),
      List.takeWhile_cons_of_neg (by decide)]
  unfold schemeAhead?
  simp only [hname, List.length_singleton, List.drop_succ_cons, List.drop_zero, hc, if_pos,
    List.map_cons, List.map_nil]

/-- Where a text leads to the path of a URL with that same text after it, it changes nothing but the
path, and no query or fragment comes with it. -/
theorem eq_of_beside (h : base.beside cs = .ok url) (hsub : cs.Sublist relative)
    (hpath : url.path.toList = base.path.toList ++ relative) (hbase : base.path ≠ "")
    (hrelative : relative ≠ []) (hscheme : cs = relative → schemeAhead? relative = none) :
    cs = relative ∧
      url = { base with path := String.ofList (base.path.toList ++ relative)
                        query := none
                        fragment := none } := by
  have hfront : 1 ≤ base.path.toList.length := by
    rw [Nat.one_le_iff_ne_zero, Ne, List.length_eq_zero_iff]
    exact fun hnil => hbase (String.toList_eq_nil_iff.mp hnil)
  have hlength := hsub.length_le
  rcases beside_cases h with hsame | ⟨text, htext, hless, hbuilt⟩ |
    ⟨text, path, hdrive, htext, hbuilt, hfile⟩ | ⟨isSpecial, rfl⟩
  · rw [hsame] at hpath
    exact absurd (List.self_eq_append_right.mp hpath) hrelative
  · rw [hpath] at hbuilt
    have hle := hbuilt.length_le hfront (htext.trans hsub)
    omega
  · rw [hpath] at hbuilt
    have hle := hbuilt.length_le hfront (htext.trans hsub)
    have htextLength := htext.length_le
    have hwhole : cs = relative := hsub.eq_of_length_le (by omega)
    -- A drive has its colon in the path, and with a colon the text would start with a scheme.
    rw [hfile] at hpath
    obtain ⟨root, hroot⟩ : ∃ root, base.path.toList = [root] :=
      List.length_eq_one_iff.mp (by omega)
    rw [hroot, List.singleton_append, List.cons.injEq] at hpath
    rcases withColon_cases path with ⟨heq, hnone⟩ | ⟨c, d, rest, hc, -, heq⟩
    · rw [hwhole, ← hpath.2, heq, hnone] at hdrive
      cases hdrive
    · rw [heq] at hpath
      have hnone := hscheme hwhole
      rw [← hpath.2, schemeAhead?_drive hc] at hnone
      cases hnone
  · rw [String.toList_ofList] at hpath
    have hstart : (upToSlash base.path.toList).length ≤ base.path.toList.length :=
      (dropEnd_isPrefix _ _).length_le
    have hstays (c : Char) (hc : c ∈ relative) : stays pathSet c = true := by
      refine (staysFrom_length (upToSlash base.path.toList)).addSegments isSpecial
        (tailOf isSpecial cs).1 c ?_
      rw [hpath, List.drop_append_of_le_length hstart]
      exact List.mem_append_right _ hc
    have htail := tailOf_of_stays isSpecial fun c hc => hstays c (hsub.subset hc)
    have hbuilt := built_addSegments isSpecial (upToSlash base.path.toList) cs
    rw [htail] at hpath
    rw [hpath] at hbuilt
    have hle := hbuilt.length_le hstart hsub
    refine ⟨hsub.eq_of_length_le (by omega), ?_⟩
    rw [htail, hpath]

theorem significant_sublist (relative : List Char) :
    (significant (String.ofList relative)).Sublist relative := by
  rw [significant, String.toList_ofList]
  exact List.filter_sublist.trans ((dropEnd_isPrefix _ _).sublist.trans (List.dropWhile_sublist _))

theorem schemeAhead?_eq_some {cs rest : List Char} (h : schemeAhead? cs = some (scheme, rest)) :
    rest.Sublist cs ∧ rest.length + 2 ≤ cs.length := by
  unfold schemeAhead? at h
  extract_lets name at h
  split at h
  · next c tail after hname hafter =>
    split at h
    · cases h
      have hcs : name ++ ':' :: rest = cs := by
        rw [← hafter]
        exact List.prefix_iff_eq_append.mp (List.takeWhile_prefix _)
      rw [← hcs]
      refine ⟨(List.sublist_cons_self _ _).trans (List.sublist_append_right _ _), ?_⟩
      rw [hname]
      simp only [List.length_append, List.length_cons]
      omega
    · cases h
  · cases h

/-- Joining keeps to the path. Where a text joined to a URL leads to the path of that URL with
the same text after it, it leads to that URL but for its path, without a query or a fragment. -/
theorem eq_of_join (h : base.join (String.ofList relative) = .ok url)
    (hpath : url.path.toList = base.path.toList ++ relative) (hbase : base.path ≠ "")
    (hrelative : relative ≠ []) :
    url = { base with path := String.ofList (base.path.toList ++ relative)
                      query := none
                      fragment := none } := by
  have hfront : 1 ≤ base.path.toList.length := by
    rw [Nat.one_le_iff_ne_zero, Ne, List.length_eq_zero_iff]
    exact fun hnil => hbase (String.toList_eq_nil_iff.mp hnil)
  unfold join at h
  extract_lets cs at h
  have hcs : cs.Sublist relative := significant_sublist relative
  have hlength := hcs.length_le
  split at h
  · next scheme rest hscheme =>
    obtain ⟨hrest, hless⟩ := schemeAhead?_eq_some hscheme
    split at h
    · have hwhole := (eq_of_beside h (hrest.trans hcs) hpath hbase hrelative fun heq => by
        rw [heq] at hless
        omega).1
      rw [hwhole] at hless
      omega
    · obtain ⟨text, htext, hbuilt⟩ := ofScheme_built h
      have htextLength := htext.length_le
      rw [hpath] at hbuilt
      have hle := hbuilt.length_le hfront (htext.trans (hrest.trans hcs))
      omega
  · next hscheme =>
    split at h
    · cases h
    · exact (eq_of_beside h hcs hpath hbase hrelative fun heq => heq ▸ hscheme).2

theorem significant_of_stays (h : ∀ c ∈ relative, stays pathSet c = true) :
    significant (String.ofList relative) = relative := by
  have hblank (c : Char) (hc : c ∈ relative) : 0x20 < c.toNat := by
    have hstays := h c hc
    have hne : c.toNat ≠ 0x20 := by
      intro heq
      have hspace : c = ' ' := Char.ext (UInt32.toNat_inj.mp heq)
      subst hspace
      exact absurd hstays (by decide)
    simp only [stays, Bool.and_eq_true, decide_eq_true_eq] at hstays
    omega
  rw [significant, String.toList_ofList, dropEdges_eq_self]
  · refine List.filter_eq_self.mpr fun c hc => ?_
    have hc := hblank c hc
    by_cases htab : c = '\t'
    · subst htab
      exact absurd hc (by decide)
    by_cases hline : c = '\n'
    · subst hline
      exact absurd hc (by decide)
    by_cases hreturn : c = '\r'
    · subst hreturn
      exact absurd hc (by decide)
    simp [htab, hline, hreturn]
  · intro c hc
    have hc := hblank c hc
    exact decide_eq_false (by omega)

theorem upToSlash_of_getLast? {path : List Char} (h : path.getLast? = some '/') :
    upToSlash path = path := by
  obtain ⟨front, rfl⟩ := List.getLast?_eq_some_iff.mp h
  rw [upToSlash, dropEnd_concat]
  rfl

/-- A text that is nothing but a path without dot segments leads to that path after the one that
was there. -/
theorem join_of_stays (hbase : base.isRootless = false)
    (hlast : base.path.toList.getLast? = some '/')
    (hstays : ∀ c ∈ relative, stays pathSet c = true) (hback : '\\' ∉ relative)
    (hdots : ∀ s ∈ fields '/' relative, isDots s = false)
    (hscheme : schemeAhead? relative = none) (hdrive : isDriveAhead relative = false)
    (hhead : relative.head? ≠ some '/') (hrelative : relative ≠ []) :
    base.join (String.ofList relative) = .ok
      { base with path := String.ofList (base.path.toList ++ relative)
                  query := none
                  fragment := none } := by
  obtain ⟨c, rest, rfl⟩ := List.exists_cons_of_ne_nil hrelative
  have hslash : isSlash true c = false := by
    have hne : c ≠ '/' := fun heq => hhead (by rw [heq, List.head?_cons])
    have hne' : c ≠ '\\' := fun heq => hback (heq ▸ List.mem_cons_self)
    simp [isSlash, hne, hne']
  have hmark : c ≠ '#' ∧ c ≠ '?' := by
    have hc := hstays c List.mem_cons_self
    exact ⟨fun heq => absurd (heq ▸ hc) (by decide), fun heq => absurd (heq ▸ hc) (by decide)⟩
  have hslashes : (c :: rest).takeWhile (isSlash true) = [] :=
    List.takeWhile_cons_of_neg (by rw [hslash]; exact Bool.false_ne_true)
  unfold join
  simp only [significant_of_stays hstays, hscheme]
  rw [if_neg (fun h => by rw [hbase] at h; exact Bool.false_ne_true h.1)]
  unfold beside
  simp only [tailOf_of_stays _ hstays, hdrive, hslashes]
  split
  · next hnil => cases hnil
  · next heq => exact absurd (List.cons.inj heq).1 hmark.1
  · next heq => exact absurd (List.cons.inj heq).1 hmark.2
  next heq =>
  obtain ⟨rfl, rfl⟩ := List.cons.inj heq
  rw [if_neg (by simp), if_neg (by simp), hslash, if_neg Bool.false_ne_true,
    if_neg Bool.false_ne_true, upToSlash_of_getLast? hlast, addSegments_of_stays hstays hback hdots]

end VaultAccess.Url
