import VaultAccess.Proofs.Json.Lexemes
import VaultAccess.Proofs.Lookup

/-!
# The grammar of JSON

A value is spelled by the texts that the grammar gives for it. Reading the value ahead finds one of
its texts, whatever stands after it; and every text of a value, with blanks in front, is read as that
value where nothing follows that could belong to a number.
-/
namespace VaultAccess.Json

variable {bs rest text inner blanks : List UInt8} {v : Raw} {items : List Raw}
  {members : List (List UInt8 × Raw)} {first : Bool} {fuel : Nat}

/-! ## Texts and values -/

/-- What stands before a part of a list or object: blanks, and among them a comma unless the part is
the first. -/
def Lead (first : Bool) (lead : List UInt8) : Prop :=
  if first then Blank lead
  else ∃ before after, lead = before ++ 44 :: after ∧ Blank before ∧ Blank after

mutual

/-- The texts of a value. -/
inductive Spells : List UInt8 → Raw → Prop where
  | null : Spells [110, 117, 108, 108] .null
  | trueWord : Spells [116, 114, 117, 101] (.bool true)
  | falseWord : Spells [102, 97, 108, 115, 101] (.bool false)
  | num {lexeme : List UInt8} (h : IsNumber lexeme) : Spells lexeme (.num lexeme)
  | str {lexeme : List UInt8} (h : IsString lexeme) : Spells (34 :: lexeme) (.str lexeme)
  | arr {inner blanks : List UInt8} {items : List Raw} (hitems : SpellsItems true inner items)
      (hblanks : Blank blanks) : Spells (91 :: (inner ++ (blanks ++ [93]))) (.arr items)
  | obj {inner blanks : List UInt8} {members : List (List UInt8 × Raw)}
      (hmembers : SpellsMembers true inner members) (hblanks : Blank blanks) :
      Spells (123 :: (inner ++ (blanks ++ [125]))) (.obj members)

/-- The texts of the items of a list from the first or from a later one on. -/
inductive SpellsItems : Bool → List UInt8 → List Raw → Prop where
  | nil {first : Bool} : SpellsItems first [] []
  | cons {first : Bool} {lead text inner : List UInt8} {item : Raw} {items : List Raw}
      (hlead : Lead first lead) (hitem : Spells text item)
      (hitems : SpellsItems false inner items) :
      SpellsItems first (lead ++ (text ++ inner)) (item :: items)

/-- The texts of the members of an object from the first or from a later one on. -/
inductive SpellsMembers : Bool → List UInt8 → List (List UInt8 × Raw) → Prop where
  | nil {first : Bool} : SpellsMembers first [] []
  | cons {first : Bool} {lead key before after text inner : List UInt8} {value : Raw}
      {members : List (List UInt8 × Raw)} (hlead : Lead first lead) (hkey : IsString key)
      (hbefore : Blank before) (hafter : Blank after) (hvalue : Spells text value)
      (hmembers : SpellsMembers false inner members) :
      SpellsMembers first (lead ++ 34 :: (key ++ (before ++ 58 :: (after ++ (text ++ inner)))))
        ((key, value) :: members)

end

theorem IsUnsigned.head {lexeme : List UInt8} (h : IsUnsigned lexeme) :
    ∃ b tail, lexeme = b :: tail ∧ isDigitByte b = true := by
  obtain ⟨whole, fraction, exponent, rfl, hwhole, -, -⟩ := h
  rcases hwhole with rfl | ⟨⟨hne, hall⟩, -⟩
  · exact ⟨48, _, rfl, by decide⟩
  · cases whole with
    | nil => exact absurd rfl hne
    | cons b whole => exact ⟨b, _, rfl, hall b List.mem_cons_self⟩

theorem IsNumber.head {lexeme : List UInt8} (h : IsNumber lexeme) :
    ∃ b tail, lexeme = b :: tail ∧ (b = 45 ∨ isDigitByte b = true) := by
  rcases h with hunsigned | ⟨tail, rfl, -⟩
  · obtain ⟨b, tail, rfl, hb⟩ := hunsigned.head
    exact ⟨b, tail, rfl, .inr hb⟩
  · exact ⟨45, tail, rfl, .inl rfl⟩

theorem isDigitByte_iff (b : UInt8) : isDigitByte b = true ↔ 48 ≤ b.toNat ∧ b.toNat ≤ 57 := by
  simp [isDigitByte, UInt8.le_iff_toNat_le]

/-- A value starts with no blank and nothing that ends a list. -/
theorem Spells.head (h : Spells text v) :
    ∃ b tail, text = b :: tail ∧ isBlankByte b = false ∧ b ≠ 93 := by
  cases h with
  | null => exact ⟨_, _, rfl, by decide, by decide⟩
  | trueWord => exact ⟨_, _, rfl, by decide, by decide⟩
  | falseWord => exact ⟨_, _, rfl, by decide, by decide⟩
  | str => exact ⟨_, _, rfl, by decide, by decide⟩
  | arr => exact ⟨_, _, rfl, by decide, by decide⟩
  | obj => exact ⟨_, _, rfl, by decide, by decide⟩
  | num hnumber =>
    obtain ⟨b, tail, rfl, rfl | hb⟩ := hnumber.head
    · exact ⟨_, _, rfl, by decide, by decide⟩
    · rw [isDigitByte_iff] at hb
      refine ⟨b, tail, rfl, ?_, ?_⟩
      · simp only [isBlankByte, ← UInt8.toNat_inj, Bool.or_eq_false_iff, beq_eq_false_iff_ne, ne_eq,
          UInt8.reduceToNat]
        omega
      · rintro rfl
        exact absurd hb (by decide)

theorem endsNumber_blank {b : UInt8} (hblanks : Blank blanks)
    (hb : isDigitByte b = false ∧ b ≠ 46 ∧ b ≠ 101 ∧ b ≠ 69) :
    EndsNumber (blanks ++ b :: rest) := by
  intro c hc
  cases blanks with
  | nil =>
    cases hc
    exact hb
  | cons d blanks =>
    cases hc
    have hd := hblanks c List.mem_cons_self
    simp only [isBlankByte, Bool.or_eq_true, beq_iff_eq] at hd
    rcases hd with ((rfl | rfl) | rfl) | rfl <;> decide

theorem Lead.endsNumber {lead : List UInt8} (h : Lead false lead) (rest : List UInt8) :
    EndsNumber (lead ++ rest) := by
  obtain ⟨before, after, rfl, hbefore, -⟩ := h
  rw [List.append_assoc]
  exact endsNumber_blank hbefore (by decide)

theorem SpellsItems.endsNumber (h : SpellsItems false inner items) (hrest : EndsNumber rest) :
    EndsNumber (inner ++ rest) := by
  cases h with
  | nil => exact hrest
  | cons hlead =>
    rw [List.append_assoc]
    exact hlead.endsNumber _

theorem SpellsMembers.endsNumber (h : SpellsMembers false inner members)
    (hrest : EndsNumber rest) : EndsNumber (inner ++ rest) := by
  cases h with
  | nil => exact hrest
  | cons hlead =>
    rw [List.append_assoc]
    exact hlead.endsNumber _

/-- Parts that are first become later ones after a comma. -/
theorem SpellsItems.after_comma (h : SpellsItems true inner items) (hne : items ≠ [])
    (hblanks : Blank blanks) : SpellsItems false (blanks ++ 44 :: inner) items := by
  cases h with
  | nil => exact absurd rfl hne
  | @cons _ lead text inner item items hlead hitem hitems =>
    have hlater : Lead false (blanks ++ 44 :: lead) := ⟨blanks, lead, rfl, hblanks, hlead⟩
    have := SpellsItems.cons hlater hitem hitems
    simpa using this

theorem SpellsMembers.after_comma (h : SpellsMembers true inner members) (hne : members ≠ [])
    (hblanks : Blank blanks) : SpellsMembers false (blanks ++ 44 :: inner) members := by
  cases h with
  | nil => exact absurd rfl hne
  | @cons _ lead key before after text inner value members hlead hkey hbefore hafter hvalue
      hmembers =>
    have hlater : Lead false (blanks ++ 44 :: lead) := ⟨blanks, lead, rfl, hblanks, hlead⟩
    have := SpellsMembers.cons hlater hkey hbefore hafter hvalue hmembers
    simpa using this

/-! ## What is read is spelled -/

@[simp] theorem consumed_append (lexeme rest : List UInt8) :
    Raw.consumed (lexeme ++ rest) rest = lexeme := by
  simp [Raw.consumed]

theorem exists_spells_of_scalar (h : Raw.scalar bs = .ok (v, rest)) :
    ∃ text, bs = text ++ rest ∧ Spells text v := by
  unfold Raw.scalar at h
  split at h
  · cases h
  next b tail =>
  split at h
  · next hb =>
    obtain ⟨_, hword, ⟨rfl, rfl⟩⟩ := map_eq_ok_iff.mp h
    exact ⟨_, by rw [hb, ident_eq_ok_iff.mp hword]; rfl, .null⟩
  split at h
  · next hb =>
    obtain ⟨_, hword, ⟨rfl, rfl⟩⟩ := map_eq_ok_iff.mp h
    exact ⟨_, by rw [hb, ident_eq_ok_iff.mp hword]; rfl, .trueWord⟩
  split at h
  · next hb =>
    obtain ⟨_, hword, ⟨rfl, rfl⟩⟩ := map_eq_ok_iff.mp h
    exact ⟨_, by rw [hb, ident_eq_ok_iff.mp hword]; rfl, .falseWord⟩
  split at h
  · next hb =>
    obtain ⟨_, hskip, ⟨rfl, rfl⟩⟩ := map_eq_ok_iff.mp h
    obtain ⟨lexeme, rfl, hlexeme⟩ := skipString_eq_ok_iff.mp hskip
    rw [consumed_append]
    exact ⟨34 :: lexeme, by rw [hb]; rfl, .str hlexeme⟩
  split at h
  · next hb =>
    obtain ⟨_, hskip, ⟨rfl, rfl⟩⟩ := map_eq_ok_iff.mp h
    obtain ⟨lexeme, rfl, hlexeme⟩ := exists_unsigned_of_skipNumber hskip
    rw [← List.cons_append, consumed_append]
    exact ⟨b :: lexeme, rfl, .num (.inr ⟨lexeme, by rw [hb], hlexeme⟩)⟩
  split at h
  · obtain ⟨_, hskip, ⟨rfl, rfl⟩⟩ := map_eq_ok_iff.mp h
    obtain ⟨lexeme, heq, hlexeme⟩ := exists_unsigned_of_skipNumber hskip
    rw [heq, consumed_append]
    exact ⟨lexeme, rfl, .num (.inl hlexeme)⟩
  · cases h

/-- A key ends at its colon. -/
theorem exists_key_of_key {k : List UInt8} (h : Raw.key bs = .ok (k, rest)) :
    ∃ before, bs = 34 :: (k ++ (before ++ 58 :: rest)) ∧ IsString k ∧ Blank before := by
  unfold Raw.key at h
  split at h
  · cases h
  next b tail =>
  split at h
  · next hb =>
    split at h
    · cases h
    next after hskip =>
    obtain ⟨lexeme, rfl, hlexeme⟩ := skipString_eq_ok_iff.mp hskip
    split at h
    · cases h
    next c rest' hblank =>
    split at h
    · next hc =>
      cases h
      obtain ⟨-, before, hbefore, rfl⟩ := skipBlank_eq_cons_iff.mp hblank
      rw [consumed_append]
      exact ⟨before, by rw [hb, hc], hlexeme, hbefore⟩
    · cases h
  · cases h

/-- With this much fuel a value that is read is spelled. -/
def ValuesSpelled (fuel : Nat) : Prop :=
  ∀ bs v rest, Raw.value fuel bs = .ok (v, rest) →
    ∃ blanks text, bs = blanks ++ (text ++ rest) ∧ Blank blanks ∧ Spells text v

/-- With this much fuel items that are read up to the end of their list are spelled. -/
def ItemsSpelled (fuel : Nat) : Prop :=
  ∀ bs items rest, Raw.items fuel bs = .ok (items, rest) →
    ∃ inner blanks, bs = inner ++ (blanks ++ 93 :: rest) ∧ Blank blanks ∧
      SpellsItems true inner items ∧ items ≠ []

/-- With this much fuel members that are read up to the end of their object are spelled. -/
def MembersSpelled (fuel : Nat) : Prop :=
  ∀ bs members rest, Raw.members fuel bs = .ok (members, rest) →
    ∃ inner blanks, bs = inner ++ (blanks ++ 125 :: rest) ∧ Blank blanks ∧
      SpellsMembers true inner members ∧ members ≠ []

/-- Blanks in front of the first item belong to its lead. -/
theorem SpellsItems.blank_append (h : SpellsItems true inner items) (hne : items ≠ [])
    (hblanks : Blank blanks) : SpellsItems true (blanks ++ inner) items := by
  cases h with
  | nil => exact absurd rfl hne
  | @cons _ lead text inner item items hlead hitem hitems =>
    have hlead' : Lead true (blanks ++ lead) := hblanks.append hlead
    have := SpellsItems.cons hlead' hitem hitems
    simpa using this

theorem SpellsMembers.blank_append (h : SpellsMembers true inner members) (hne : members ≠ [])
    (hblanks : Blank blanks) : SpellsMembers true (blanks ++ inner) members := by
  cases h with
  | nil => exact absurd rfl hne
  | @cons _ lead key before after text inner value members hlead hkey hbefore hafter hvalue
      hmembers =>
    have hlead' : Lead true (blanks ++ lead) := hblanks.append hlead
    have := SpellsMembers.cons hlead' hkey hbefore hafter hvalue hmembers
    simpa using this

theorem valuesSpelled_succ (hitems : ItemsSpelled fuel) (hmembers : MembersSpelled fuel) :
    ValuesSpelled (fuel + 1) := by
  intro bs v rest h
  rw [Raw.value] at h
  split at h
  · cases h
  next b tail hblank =>
  obtain ⟨-, blanks, hblanks, rfl⟩ := skipBlank_eq_cons_iff.mp hblank
  refine ⟨blanks, ?_⟩
  split at h
  · next hb =>
    split at h
    · cases h
    next c rest' hinner =>
    obtain ⟨-, before, hbefore, rfl⟩ := skipBlank_eq_cons_iff.mp hinner
    split at h
    · next hc =>
      cases h
      exact ⟨91 :: ([] ++ (before ++ [93])), by simp [hb, hc], hblanks, .arr .nil hbefore⟩
    · obtain ⟨⟨items, _⟩, hread, heq⟩ := map_eq_ok_iff.mp h
      cases heq
      obtain ⟨inner, after, heq, hafter, hspells, hne⟩ := hitems _ _ _ hread
      exact ⟨91 :: ((before ++ inner) ++ (after ++ [93])), by simp [hb, heq], hblanks,
        .arr (hspells.blank_append hne hbefore) hafter⟩
  split at h
  · next hb =>
    split at h
    · cases h
    next c rest' hinner =>
    obtain ⟨-, before, hbefore, rfl⟩ := skipBlank_eq_cons_iff.mp hinner
    split at h
    · next hc =>
      cases h
      exact ⟨123 :: ([] ++ (before ++ [125])), by simp [hb, hc], hblanks, .obj .nil hbefore⟩
    · obtain ⟨⟨members, _⟩, hread, heq⟩ := map_eq_ok_iff.mp h
      cases heq
      obtain ⟨inner, after, heq, hafter, hspells, hne⟩ := hmembers _ _ _ hread
      exact ⟨123 :: ((before ++ inner) ++ (after ++ [125])), by simp [hb, heq], hblanks,
        .obj (hspells.blank_append hne hbefore) hafter⟩
  · obtain ⟨text, heq, hspells⟩ := exists_spells_of_scalar h
    exact ⟨text, by rw [heq], hblanks, hspells⟩

theorem itemsSpelled_succ (hvalues : ValuesSpelled fuel) (hitems : ItemsSpelled fuel) :
    ItemsSpelled (fuel + 1) := by
  intro bs items rest h
  rw [Raw.items] at h
  split at h
  · cases h
  next v after hvalue =>
  obtain ⟨lead, text, rfl, hlead, hspells⟩ := hvalues _ _ _ hvalue
  split at h
  · cases h
  next c rest' hblank =>
  obtain ⟨-, blanks, hblanks, rfl⟩ := skipBlank_eq_cons_iff.mp hblank
  split at h
  · next hc =>
    obtain ⟨⟨later, _⟩, hread, heq⟩ := map_eq_ok_iff.mp h
    cases heq
    obtain ⟨inner, end', rfl, hend, hlater, hne⟩ := hitems _ _ _ hread
    exact ⟨lead ++ (text ++ (blanks ++ 44 :: inner)), end', by simp [hc], hend,
      .cons hlead hspells (hlater.after_comma hne hblanks), List.cons_ne_nil _ _⟩
  split at h
  · next hc =>
    cases h
    exact ⟨lead ++ (text ++ []), blanks, by simp [hc], hblanks, .cons hlead hspells .nil,
      List.cons_ne_nil _ _⟩
  · cases h

theorem membersSpelled_succ (hvalues : ValuesSpelled fuel) (hmembers : MembersSpelled fuel) :
    MembersSpelled (fuel + 1) := by
  intro bs members rest h
  rw [Raw.members] at h
  split at h
  · cases h
  next k afterKey hkey =>
  obtain ⟨before, hbs, hk, hbefore⟩ := exists_key_of_key hkey
  obtain ⟨-, lead, hlead, rfl⟩ := skipBlank_eq_cons_iff.mp hbs
  split at h
  · cases h
  next v after hvalue =>
  obtain ⟨gap, text, rfl, hgap, hspells⟩ := hvalues _ _ _ hvalue
  split at h
  · cases h
  next c rest' hblank =>
  obtain ⟨-, blanks, hblanks, rfl⟩ := skipBlank_eq_cons_iff.mp hblank
  split at h
  · next hc =>
    obtain ⟨⟨later, _⟩, hread, heq⟩ := map_eq_ok_iff.mp h
    cases heq
    obtain ⟨inner, end', rfl, hend, hlater, hne⟩ := hmembers _ _ _ hread
    exact ⟨_, end', by simp [hc], hend,
      .cons hlead hk hbefore hgap hspells (hlater.after_comma hne hblanks), List.cons_ne_nil _ _⟩
  split at h
  · next hc =>
    cases h
    exact ⟨_, blanks, by simp [hc], hblanks, .cons hlead hk hbefore hgap hspells .nil,
      List.cons_ne_nil _ _⟩
  · cases h

theorem spelled (fuel : Nat) : ValuesSpelled fuel ∧ ItemsSpelled fuel ∧ MembersSpelled fuel := by
  induction fuel with
  | zero =>
    refine ⟨fun _ _ _ h => ?_, fun _ _ _ h => ?_, fun _ _ _ h => ?_⟩
    · simp [Raw.value, failAt] at h
    · simp [Raw.items, failAt] at h
    · simp [Raw.members, failAt] at h
  | succ fuel ih =>
    obtain ⟨hvalues, hitems, hmembers⟩ := ih
    exact ⟨valuesSpelled_succ hitems hmembers, itemsSpelled_succ hvalues hitems,
      membersSpelled_succ hvalues hmembers⟩

/-- The value that is read ahead has its text ahead. -/
theorem exists_spells_of_next (h : Raw.next bs = .ok (v, rest)) :
    ∃ blanks text, bs = blanks ++ (text ++ rest) ∧ Blank blanks ∧ Spells text v :=
  (spelled _).1 _ _ _ h

/-! ## What is spelled is read -/

theorem scalar_append (h : Spells text v) (hrest : EndsNumber rest)
    (harr : ∀ items, v ≠ .arr items) (hobj : ∀ members, v ≠ .obj members) :
    Raw.scalar (text ++ rest) = .ok (v, rest) := by
  cases h with
  | null =>
    have hword : restOfNull ([117, 108, 108] ++ rest) = .ok rest := ident_eq_ok_iff.mpr rfl
    exact map_eq_ok_iff.mpr ⟨rest, hword, rfl⟩
  | trueWord =>
    have hword : restOfTrue ([114, 117, 101] ++ rest) = .ok rest := ident_eq_ok_iff.mpr rfl
    exact map_eq_ok_iff.mpr ⟨rest, hword, rfl⟩
  | falseWord =>
    have hword : restOfFalse ([97, 108, 115, 101] ++ rest) = .ok rest := ident_eq_ok_iff.mpr rfl
    exact map_eq_ok_iff.mpr ⟨rest, hword, rfl⟩
  | @str lexeme hlexeme =>
    have hskip : Raw.skipString (lexeme ++ rest) = .ok rest :=
      skipString_eq_ok_iff.mpr ⟨lexeme, rfl, hlexeme⟩
    simp [Raw.scalar, hskip, Except.map]
  | num hnumber =>
    rcases hnumber with hunsigned | ⟨tail, rfl, hunsigned⟩
    · have hskip := skipNumber_append hunsigned hrest
      obtain ⟨b, tail, rfl, hb⟩ := hunsigned.head
      have hother : ∀ c, isDigitByte c = false → b ≠ c := by
        rintro c hc rfl
        rw [hb] at hc
        cases hc
      rw [List.cons_append, Raw.scalar, if_neg (hother _ (by decide)), if_neg (hother _ (by decide)),
        if_neg (hother _ (by decide)), if_neg (hother _ (by decide)), if_neg (hother _ (by decide)),
        if_pos hb, ← List.cons_append, hskip]
      exact map_eq_ok_iff.mpr ⟨rest, rfl, by rw [consumed_append]⟩
    · have hskip := skipNumber_append hunsigned hrest
      rw [List.cons_append, Raw.scalar, if_neg (by decide), if_neg (by decide),
        if_neg (by decide), if_neg (by decide), if_pos rfl, hskip, ← List.cons_append]
      exact map_eq_ok_iff.mpr ⟨rest, rfl, by rw [consumed_append]⟩
  | arr => exact absurd rfl (harr _)
  | obj => exact absurd rfl (hobj _)

theorem key_append {k before : List UInt8} (hk : IsString k) (hbefore : Blank before) :
    Raw.key (34 :: (k ++ (before ++ 58 :: rest))) = .ok (k, rest) := by
  have hskip : Raw.skipString (k ++ (before ++ 58 :: rest)) = .ok (before ++ 58 :: rest) :=
    skipString_eq_ok_iff.mpr ⟨k, rfl, hk⟩
  simp [Raw.key, hskip, skipBlank_append_cons (show isBlankByte 58 = false by decide) hbefore]

/-- With this much fuel the short texts of a value are read as that value. -/
def TextsRead (fuel : Nat) : Prop :=
  ∀ text v, Spells text v → 2 * text.length ≤ fuel →
    ∀ blanks rest, Blank blanks → EndsNumber rest →
      Raw.value fuel (blanks ++ (text ++ rest)) = .ok (v, rest)

/-- With this much fuel items with short texts are read up to the end of their list. -/
def ItemTextsRead (fuel : Nat) : Prop :=
  ∀ inner items, SpellsItems true inner items → items ≠ [] → 2 * inner.length + 1 ≤ fuel →
    ∀ blanks rest, Blank blanks →
      Raw.items fuel (inner ++ (blanks ++ 93 :: rest)) = .ok (items, rest)

/-- With this much fuel members with short texts are read up to the end of their object. -/
def MemberTextsRead (fuel : Nat) : Prop :=
  ∀ inner members, SpellsMembers true inner members → members ≠ [] →
    2 * inner.length + 1 ≤ fuel → ∀ blanks rest, Blank blanks →
      Raw.members fuel (inner ++ (blanks ++ 125 :: rest)) = .ok (members, rest)

theorem itemTextsRead_succ (hvalues : TextsRead fuel) (hitems : ItemTextsRead fuel) :
    ItemTextsRead (fuel + 1) := by
  intro inner items h hne hfuel blanks rest hblanks
  cases h with
  | nil => exact absurd rfl hne
  | @cons _ lead text inner v items hlead hspells hlater =>
    simp only [List.length_append] at hfuel
    have hend : EndsNumber (blanks ++ 93 :: rest) := endsNumber_blank hblanks (by decide)
    have hvalue := hvalues text v hspells (by omega) lead (inner ++ (blanks ++ 93 :: rest)) hlead
      (hlater.endsNumber hend)
    simp only [List.append_assoc]
    rw [Raw.items, hvalue]
    cases hlater with
    | nil =>
      simp [skipBlank_append_cons (show isBlankByte 93 = false by decide) hblanks]
    | @cons _ lead text inner v items hlead hspells hlater =>
      obtain ⟨before, after, rfl, hbefore, hafter⟩ := hlead
      simp only [List.length_append, List.length_cons] at hfuel
      have hcomma := skipBlank_append_cons (show isBlankByte 44 = false by decide) hbefore
      have hread := hitems _ _ (.cons hafter hspells hlater) (List.cons_ne_nil _ _)
        (by simp only [List.length_append]; omega) blanks rest hblanks
      simp only [List.append_assoc] at hread
      simp [hcomma, hread, Except.map]

theorem memberTextsRead_succ (hvalues : TextsRead fuel) (hmembers : MemberTextsRead fuel) :
    MemberTextsRead (fuel + 1) := by
  intro inner members h hne hfuel blanks rest hblanks
  cases h with
  | nil => exact absurd rfl hne
  | @cons _ lead key before after text inner v members hlead hkey hbefore hafter hspells hlater =>
    simp only [List.length_append, List.length_cons] at hfuel
    have hend : EndsNumber (blanks ++ 125 :: rest) := endsNumber_blank hblanks (by decide)
    have hvalue := hvalues text v hspells (by omega) after (inner ++ (blanks ++ 125 :: rest)) hafter
      (hlater.endsNumber hend)
    have hquote := skipBlank_append_cons (show isBlankByte 34 = false by decide) hlead
    simp only [List.append_assoc, List.cons_append]
    rw [Raw.members, hquote, key_append hkey hbefore]
    simp only [hvalue]
    cases hlater with
    | nil =>
      simp [skipBlank_append_cons (show isBlankByte 125 = false by decide) hblanks]
    | @cons _ lead' key' before' after' text' inner' v' members' hlead' hkey' hbefore' hafter'
        hspells' hlater' =>
      obtain ⟨start, stop, rfl, hstart, hstop⟩ := hlead'
      simp only [List.length_append, List.length_cons] at hfuel
      have hcomma := skipBlank_append_cons (show isBlankByte 44 = false by decide) hstart
      have hread := hmembers _ _ (.cons hstop hkey' hbefore' hafter' hspells' hlater')
        (List.cons_ne_nil _ _) (by simp only [List.length_append, List.length_cons]; omega) blanks
        rest hblanks
      simp only [List.append_assoc, List.cons_append] at hread
      simp [hcomma, hread, Except.map]

theorem value_succ_of_arr (hitems : ItemTextsRead fuel) (h : SpellsItems true inner items)
    (hfuel : 2 * inner.length + 1 ≤ fuel) (hblanks : Blank blanks) (rest : List UInt8) :
    Raw.value (fuel + 1) (91 :: (inner ++ (blanks ++ 93 :: rest))) = .ok (.arr items, rest) := by
  rw [Raw.value, skipBlank_cons (by decide)]
  cases h with
  | nil =>
    simp [skipBlank_append_cons (show isBlankByte 93 = false by decide) hblanks]
  | @cons _ lead text inner v items hlead hspells hlater =>
    obtain ⟨b, tail, rfl, hb, hne⟩ := hspells.head
    have hfirst := skipBlank_append_cons hb hlead
    simp only [List.length_append] at hfuel
    have hread := hitems ([] ++ (b :: tail ++ inner)) _ (.cons blank_nil hspells hlater)
      (List.cons_ne_nil _ _) (by simp only [List.length_append, List.length_nil]; omega) blanks rest
      hblanks
    simp only [List.nil_append, List.append_assoc, List.cons_append] at hread
    simp [hfirst, hne, hread, Except.map]

theorem value_succ_of_obj (hmembers : MemberTextsRead fuel) (h : SpellsMembers true inner members)
    (hfuel : 2 * inner.length + 1 ≤ fuel) (hblanks : Blank blanks) (rest : List UInt8) :
    Raw.value (fuel + 1) (123 :: (inner ++ (blanks ++ 125 :: rest))) = .ok (.obj members, rest) := by
  rw [Raw.value, skipBlank_cons (by decide)]
  cases h with
  | nil =>
    simp [skipBlank_append_cons (show isBlankByte 125 = false by decide) hblanks]
  | @cons _ lead key before after text inner v members hlead hkey hbefore hafter hspells hlater =>
    have hfirst := skipBlank_append_cons (show isBlankByte 34 = false by decide) hlead
    simp only [List.length_append, List.length_cons] at hfuel
    have hread := hmembers _ _ (.cons blank_nil hkey hbefore hafter hspells hlater)
      (List.cons_ne_nil _ _)
      (by simp only [List.length_append, List.length_cons, List.length_nil]; omega) blanks rest
      hblanks
    simp only [List.nil_append, List.append_assoc, List.cons_append] at hread
    simp [hfirst, hread, Except.map]

theorem value_blank_append (hblanks : Blank blanks) (fuel : Nat) (bs : List UInt8) :
    Raw.value (fuel + 1) (blanks ++ bs) = Raw.value (fuel + 1) bs := by
  rw [Raw.value, Raw.value, skipBlank_append hblanks]

theorem textsRead_succ (hitems : ItemTextsRead fuel) (hmembers : MemberTextsRead fuel) :
    TextsRead (fuel + 1) := by
  intro text v h hfuel blanks rest hblanks hrest
  rw [value_blank_append hblanks]
  have hscalar : (∀ items, v ≠ .arr items) → (∀ members, v ≠ .obj members) →
      Raw.value (fuel + 1) (text ++ rest) = .ok (v, rest) := by
    intro harr hobj
    have hread := scalar_append h hrest harr hobj
    obtain ⟨b, tail, rfl, hb, -⟩ := h.head
    have hfirst : skipBlank (b :: tail ++ rest) = b :: (tail ++ rest) := skipBlank_cons hb _
    have hlist : b ≠ 91 := by
      rintro rfl
      simp [Raw.scalar, isDigitByte, failPeek] at hread
    have hobject : b ≠ 123 := by
      rintro rfl
      simp [Raw.scalar, isDigitByte, failPeek] at hread
    rw [Raw.value, hfirst]
    simpa [hlist, hobject] using hread
  cases h with
  | arr hinner hafter =>
    simp only [List.length_cons, List.length_append, List.length_nil] at hfuel
    simpa using value_succ_of_arr hitems hinner (by omega) hafter rest
  | obj hinner hafter =>
    simp only [List.length_cons, List.length_append, List.length_nil] at hfuel
    simpa using value_succ_of_obj hmembers hinner (by omega) hafter rest
  | _ => exact hscalar (by simp) (by simp)

theorem textsRead (fuel : Nat) : TextsRead fuel ∧ ItemTextsRead fuel ∧ MemberTextsRead fuel := by
  induction fuel with
  | zero =>
    refine ⟨fun text v h hfuel => ?_, fun _ _ _ _ hfuel => ?_, fun _ _ _ _ hfuel => ?_⟩
    · obtain ⟨b, tail, rfl, -⟩ := h.head
      simp at hfuel
    · simp at hfuel
    · simp at hfuel
  | succ fuel ih =>
    obtain ⟨hvalues, hitems, hmembers⟩ := ih
    exact ⟨textsRead_succ hitems hmembers, itemTextsRead_succ hvalues hitems,
      memberTextsRead_succ hvalues hmembers⟩

/-- A text of a value ahead is read as that value. -/
theorem next_append (h : Spells text v) (hblanks : Blank blanks) (hrest : EndsNumber rest) :
    Raw.next (blanks ++ (text ++ rest)) = .ok (v, rest) :=
  (textsRead _).1 text v h (by simp only [List.length_append]; omega) blanks rest hblanks hrest

end VaultAccess.Json
