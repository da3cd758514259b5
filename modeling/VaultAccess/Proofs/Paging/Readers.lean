import Mathlib.Data.List.Forall2
import VaultAccess.Paging.Codec
import VaultAccess.Proofs.Graph.Grammar
import VaultAccess.Proofs.Json.Grammar

/-!
# What the readers take

A reader of typed parts takes a text exactly if the text spells a value with a meaning of that type.
This is shown once for scalars, once for records that are written as objects and once for those that
are written as lists; what a record means is said on the members or items of its value.
-/
namespace VaultAccess.Paging

open Json Text

variable {α σ : Type} {bs rest blanks : List UInt8} {first : Bool}

/-- A reader takes the texts, with blanks before them, of the values that have a meaning. -/
def Reads (read : List UInt8 → Reading α) (Means : Raw → α → Prop) : Prop :=
  ∀ bs a rest, read bs = .ok (a, rest) ↔
    ∃ blanks text v, bs = blanks ++ (text ++ rest) ∧ Blank blanks ∧ Spells text v ∧ Means v a

/-- A reader of members takes, up to the end of the object, the members that have a meaning. -/
def ReadsMembers (read : List UInt8 → Reading α) (Means : List (List UInt8 × Raw) → α → Prop) :
    Prop :=
  ∀ bs a rest, (∃ ahead, read bs = .ok (a, ahead) ∧ endObject ahead = .ok rest) ↔
    ∃ inner blanks members, bs = inner ++ (blanks ++ 125 :: rest) ∧ Blank blanks ∧
      SpellsMembers true inner members ∧ Means members a

/-- A reader of items takes, up to the end of the list, the items that have a meaning. -/
def ReadsItems (read : List UInt8 → Reading α) (Means : List Raw → α → Prop) : Prop :=
  ∀ bs a rest, (∃ ahead, read bs = .ok (a, ahead) ∧ endList ahead = .ok rest) ↔
    ∃ inner blanks items, bs = inner ++ (blanks ++ 93 :: rest) ∧ Blank blanks ∧
      SpellsItems true inner items ∧ Means items a

/-! ## Punctuation -/

@[simp] theorem scan_eq_ok_iff {r : Except Json.Fault α} {a : α} : scan r = .ok a ↔ r = .ok a := by
  cases r <;> simp [scan]

@[simp] theorem settle_eq_ok_iff {finish : List UInt8 → List UInt8} {r : Except Stop α} {a : α} :
    settle finish r = .ok a ↔ r = .ok a := by
  unfold settle
  split <;> simp

theorem readColon_eq_ok_iff :
    readColon bs = .ok rest ↔ ∃ blanks, bs = blanks ++ 58 :: rest ∧ Blank blanks := by
  unfold readColon
  constructor
  · intro h
    split at h
    · cases h
    next b tail hskip =>
    split at h
    · next hb =>
      cases h
      obtain ⟨-, blanks, hblanks, rfl⟩ := skipBlank_eq_cons_iff.mp hskip
      exact ⟨blanks, by rw [hb], hblanks⟩
    · cases h
  · rintro ⟨blanks, rfl, hblanks⟩
    simp [skipBlank_append_cons (show isBlankByte 58 = false by decide) hblanks]

theorem endObject_eq_ok_iff :
    endObject bs = .ok rest ↔ ∃ blanks, bs = blanks ++ 125 :: rest ∧ Blank blanks := by
  unfold endObject
  constructor
  · intro h
    split at h
    · cases h
    next b tail hskip =>
    split at h
    · next hb =>
      cases h
      obtain ⟨-, blanks, hblanks, rfl⟩ := skipBlank_eq_cons_iff.mp hskip
      exact ⟨blanks, by rw [hb], hblanks⟩
    · split at h <;> cases h
  · rintro ⟨blanks, rfl, hblanks⟩
    simp [skipBlank_append_cons (show isBlankByte 125 = false by decide) hblanks]

theorem endList_eq_ok_iff :
    endList bs = .ok rest ↔ ∃ blanks, bs = blanks ++ 93 :: rest ∧ Blank blanks := by
  unfold endList
  constructor
  · intro h
    split at h
    · cases h
    next b tail hskip =>
    split at h
    · next hb =>
      cases h
      obtain ⟨-, blanks, hblanks, rfl⟩ := skipBlank_eq_cons_iff.mp hskip
      exact ⟨blanks, by rw [hb], hblanks⟩
    split at h
    · split at h <;> cases h
    · cases h
  · rintro ⟨blanks, rfl, hblanks⟩
    simp [skipBlank_append_cons (show isBlankByte 93 = false by decide) hblanks]

theorem nextKey_eq_some_iff :
    nextKey first bs = .ok (some rest) ↔ ∃ lead, bs = lead ++ 34 :: rest ∧ Lead first lead := by
  unfold nextKey
  constructor
  · intro h
    split at h
    · cases h
    next b tail hskip =>
    obtain ⟨-, blanks, hblanks, rfl⟩ := skipBlank_eq_cons_iff.mp hskip
    split at h
    · cases h
    split at h
    · next hfirst =>
      subst hfirst
      split at h
      · next hb =>
        cases h
        exact ⟨blanks, by rw [hb], hblanks⟩
      · cases h
    next hfirst =>
    split at h
    · next hb =>
      split at h
      · cases h
      next c tail' hskip' =>
      obtain ⟨-, blanks', hblanks', rfl⟩ := skipBlank_eq_cons_iff.mp hskip'
      split at h
      · next hc =>
        cases h
        refine ⟨blanks ++ 44 :: blanks', by simp [hb, hc], ?_⟩
        rw [Lead, if_neg hfirst]
        exact ⟨blanks, blanks', rfl, hblanks, hblanks'⟩
      · split at h <;> cases h
    · cases h
  · rintro ⟨lead, rfl, hlead⟩
    unfold Lead at hlead
    split at hlead
    · next hfirst =>
      simp [skipBlank_append_cons (show isBlankByte 34 = false by decide) hlead, hfirst]
    · next hfirst =>
      obtain ⟨before, after, rfl, hbefore, hafter⟩ := hlead
      simp [skipBlank_append_cons (show isBlankByte 44 = false by decide) hbefore,
        skipBlank_append_cons (show isBlankByte 34 = false by decide) hafter, hfirst]

theorem nextKey_eq_none_iff :
    nextKey first bs = .ok none ↔ ∃ blanks tail, bs = blanks ++ 125 :: tail ∧ Blank blanks := by
  unfold nextKey
  constructor
  · intro h
    split at h
    · cases h
    next b tail hskip =>
    obtain ⟨-, blanks, hblanks, rfl⟩ := skipBlank_eq_cons_iff.mp hskip
    split at h
    · next hb => exact ⟨blanks, tail, by rw [hb], hblanks⟩
    split at h
    · split at h <;> cases h
    split at h
    · split at h
      · cases h
      split at h
      · cases h
      split at h <;> cases h
    · cases h
  · rintro ⟨blanks, tail, rfl, hblanks⟩
    simp [skipBlank_append_cons (show isBlankByte 125 = false by decide) hblanks]

theorem nextItem_eq_some_iff :
    nextItem first bs = .ok (some rest) ↔
      ∃ lead b tail, bs = lead ++ rest ∧ rest = b :: tail ∧ Lead first lead ∧
        isBlankByte b = false ∧ b ≠ 93 := by
  unfold nextItem
  constructor
  · intro h
    split at h
    · cases h
    next b tail hskip =>
    obtain ⟨hb, blanks, hblanks, rfl⟩ := skipBlank_eq_cons_iff.mp hskip
    split at h
    · cases h
    next hclose =>
    split at h
    · next hfirst =>
      subst hfirst
      cases h
      exact ⟨blanks, b, tail, rfl, rfl, hblanks, hb, hclose⟩
    next hfirst =>
    split at h
    · next hcomma =>
      split at h
      · cases h
      next c tail' hskip' =>
      obtain ⟨hc, blanks', hblanks', rfl⟩ := skipBlank_eq_cons_iff.mp hskip'
      split at h
      · cases h
      next hclose' =>
      cases h
      refine ⟨blanks ++ 44 :: blanks', c, tail', by simp [hcomma], rfl, ?_, hc, hclose'⟩
      rw [Lead, if_neg hfirst]
      exact ⟨blanks, blanks', rfl, hblanks, hblanks'⟩
    · cases h
  · rintro ⟨lead, b, tail, rfl, rfl, hlead, hb, hclose⟩
    unfold Lead at hlead
    split at hlead
    · next hfirst => simp [skipBlank_append_cons hb hlead, hfirst, hclose]
    · next hfirst =>
      obtain ⟨before, after, rfl, hbefore, hafter⟩ := hlead
      simp [skipBlank_append_cons (show isBlankByte 44 = false by decide) hbefore,
        skipBlank_append_cons hb hafter, hfirst, hclose]

theorem nextItem_eq_none_iff :
    nextItem first bs = .ok none ↔ ∃ blanks tail, bs = blanks ++ 93 :: tail ∧ Blank blanks := by
  unfold nextItem
  constructor
  · intro h
    split at h
    · cases h
    next b tail hskip =>
    obtain ⟨-, blanks, hblanks, rfl⟩ := skipBlank_eq_cons_iff.mp hskip
    split at h
    · next hb => exact ⟨blanks, tail, by rw [hb], hblanks⟩
    split at h
    · cases h
    split at h
    · split at h
      · cases h
      split at h <;> cases h
    · cases h
  · rintro ⟨blanks, tail, rfl, hblanks⟩
    simp [skipBlank_append_cons (show isBlankByte 93 = false by decide) hblanks]

/-! ## Scalars -/

theorem refuse_ne_ok (expected : String) (bs : List UInt8) (a : α) :
    refuse expected bs ≠ .ok a := by
  intro h
  unfold refuse at h
  simp only [stopAt, stopPeek] at h
  split at h
  · cases h
  · repeat' split at h
    all_goals cases h

/-- A value that is a text. -/
def TextOf (v : Raw) (s : String) : Prop := ∃ lexeme, v = .str lexeme ∧ Denotes lexeme (Utf8.encode s)

theorem readText_reads (expected : String) : Reads (readText expected) TextOf := by
  intro bs s rest
  unfold readText
  constructor
  · intro h
    split at h
    · cases h
    next b tail hskip =>
    obtain ⟨-, blanks, hblanks, rfl⟩ := skipBlank_eq_cons_iff.mp hskip
    split at h
    · next hb =>
      obtain ⟨lexeme, rfl, hlexeme⟩ := string_eq_ok_iff.mp (scan_eq_ok_iff.mp h)
      exact ⟨blanks, 34 :: lexeme, _, by simp [hb], hblanks, .str hlexeme.isString, lexeme, rfl,
        hlexeme⟩
    · exact absurd h (refuse_ne_ok _ _ _)
  · rintro ⟨blanks, text, v, rfl, hblanks, hspells, lexeme, rfl, hlexeme⟩
    cases hspells with
    | str _ =>
      have hstring : string (lexeme ++ rest) = .ok (s, rest) :=
        string_eq_ok_iff.mpr ⟨lexeme, rfl, hlexeme⟩
      simp [skipBlank_append_cons (show isBlankByte 34 = false by decide) hblanks, hstring]

theorem readNull_eq_ok_iff :
    readNull bs = .ok rest ↔
      ∃ blanks, bs = blanks ++ ([110, 117, 108, 108] ++ rest) ∧ Blank blanks := by
  unfold readNull
  constructor
  · intro h
    split at h
    · cases h
    next b tail hskip =>
    obtain ⟨-, blanks, hblanks, rfl⟩ := skipBlank_eq_cons_iff.mp hskip
    split at h
    · next hb =>
      have hword := ident_eq_ok_iff.mp (scan_eq_ok_iff.mp h)
      exact ⟨blanks, by rw [hb, hword]; rfl, hblanks⟩
    · exact absurd h (refuse_ne_ok _ _ _)
  · rintro ⟨blanks, rfl, hblanks⟩
    have hword : restOfNull ([117, 108, 108] ++ rest) = .ok rest := ident_eq_ok_iff.mpr rfl
    simpa [skipBlank_append_cons (show isBlankByte 110 = false by decide) hblanks] using hword

/-- A value that is the name of a kind. -/
theorem readKindName_reads : Reads readKindName fun v k => TextOf v k.name := by
  intro bs k rest
  unfold readKindName
  constructor
  · intro h
    split at h
    · cases h
    next name ahead hname =>
    split at h
    · next k' hk =>
      cases h
      obtain rfl := Kind.ofName?_eq_some_iff.mp hk
      exact (readText_reads _ _ _ _).mp hname
    · cases h
  · intro h
    rw [(readText_reads "variant identifier" _ _ _).mpr h]
    simp

/-- A value that is a kind: its name, or an object that gives the name a null. -/
def KindOf (v : Raw) (k : Kind) : Prop :=
  ∃ lexeme, Denotes lexeme (Utf8.encode k.name) ∧ (v = .str lexeme ∨ v = .obj [(lexeme, .null)])

theorem readKindAhead_of_quote (hblanks : Blank blanks) (tail : List UInt8) :
    readKindAhead (blanks ++ 34 :: tail) = readKindName (34 :: tail) := by
  unfold readKindAhead
  simp [skipBlank_append_cons (show isBlankByte 34 = false by decide) hblanks]

/-- The object that gives the name of a kind a null. -/
theorem readKindAhead_of_brace (hblanks : Blank blanks) {tail : List UInt8} {k : Kind} :
    readKindAhead (blanks ++ 123 :: tail) = .ok (k, rest) ↔ ∃ before after gap,
      readKindName tail =
        .ok (k, before ++ 58 :: (after ++ ([110, 117, 108, 108] ++ (gap ++ 125 :: rest)))) ∧
      Blank before ∧ Blank after ∧ Blank gap := by
  unfold readKindAhead
  rw [skipBlank_append_cons (show isBlankByte 123 = false by decide) hblanks]
  dsimp only
  rw [if_neg (by decide), if_pos rfl]
  constructor
  · intro h
    split at h
    · cases h
    next afterName hname =>
    split at h
    · cases h
    next afterColon hcolon =>
    split at h
    · cases h
    next afterNull hnull =>
    split at h
    · cases h
    next c tail' hclose =>
    split at h
    · next hc =>
      cases h
      obtain ⟨before, rfl, hbefore⟩ := readColon_eq_ok_iff.mp hcolon
      obtain ⟨after, rfl, hafter⟩ := readNull_eq_ok_iff.mp hnull
      obtain ⟨-, gap, hgap, rfl⟩ := skipBlank_eq_cons_iff.mp hclose
      exact ⟨before, after, gap, hc ▸ hname, hbefore, hafter, hgap⟩
    · cases h
  · rintro ⟨before, after, gap, hname, hbefore, hafter, hgap⟩
    rw [hname]
    dsimp only
    rw [readColon_eq_ok_iff.mpr ⟨before, rfl, hbefore⟩]
    dsimp only
    rw [readNull_eq_ok_iff.mpr ⟨after, rfl, hafter⟩]
    dsimp only
    rw [skipBlank_append_cons (show isBlankByte 125 = false by decide) hgap]
    rfl

theorem exists_opener_of_readKindAhead {k : Kind} (h : readKindAhead bs = .ok (k, rest)) :
    ∃ blanks tail, Blank blanks ∧ (bs = blanks ++ 34 :: tail ∨ bs = blanks ++ 123 :: tail) := by
  unfold readKindAhead at h
  split at h
  · cases h
  next b tail hskip =>
  obtain ⟨-, blanks, hblanks, rfl⟩ := skipBlank_eq_cons_iff.mp hskip
  split at h
  · next hb => exact ⟨blanks, tail, hblanks, .inl (by rw [hb])⟩
  split at h
  · next hb => exact ⟨blanks, tail, hblanks, .inr (by rw [hb])⟩
  · cases h

theorem readKindAhead_reads : Reads readKindAhead KindOf := by
  intro bs k rest
  constructor
  · intro h
    obtain ⟨blanks, tail, hblanks, rfl | rfl⟩ := exists_opener_of_readKindAhead h
    · rw [readKindAhead_of_quote hblanks] at h
      obtain ⟨before, text, v, heq, hbefore, hspells, lexeme, rfl, hlexeme⟩ :=
        (readKindName_reads _ _ _).mp h
      obtain rfl := hbefore.eq_nil heq (by decide)
      exact ⟨blanks, text, _, by rw [heq]; rfl, hblanks, hspells, lexeme, hlexeme, .inl rfl⟩
    · obtain ⟨before, after, gap, hname, hbefore, hafter, hgap⟩ :=
        (readKindAhead_of_brace hblanks).mp h
      obtain ⟨lead, text, v, rfl, hlead, hspells, lexeme, rfl, hlexeme⟩ :=
        (readKindName_reads _ _ _).mp hname
      cases hspells with
      | str hstring =>
        have hmember : SpellsMembers true _ [(lexeme, Raw.null)] :=
          .cons hlead hstring hbefore hafter .null .nil
        exact ⟨blanks, _, _, by simp, hblanks, .obj hmember hgap, lexeme, hlexeme, .inr rfl⟩
  · rintro ⟨blanks, text, v, rfl, hblanks, hspells, lexeme, hlexeme, rfl | rfl⟩
    · cases hspells with
      | str hstring =>
        rw [List.cons_append, readKindAhead_of_quote hblanks]
        exact (readKindName_reads _ k rest).mpr
          ⟨[], 34 :: lexeme, _, rfl, blank_nil, .str hstring, lexeme, rfl, hlexeme⟩
    · cases hspells with
      | @obj inner gap _ hmembers hgap =>
        cases hmembers with
        | @cons _ lead key before after text inner value members hlead hkey hbefore hafter hvalue
            hlater =>
          cases hvalue
          cases hlater
          have hname := (readKindName_reads _ k
            (before ++ 58 :: (after ++ ([110, 117, 108, 108] ++ (gap ++ 125 :: rest))))).mpr
              ⟨lead, 34 :: lexeme, _, rfl, hlead, .str hkey, lexeme, rfl, hlexeme⟩
          have hread := (readKindAhead_of_brace hblanks).mpr
            ⟨before, after, gap, hname, hbefore, hafter, hgap⟩
          simpa using hread

/-! ## Members of an object -/

/-- The members of an object with the texts of their keys. -/
def Keyed (members : List (List UInt8 × Raw)) (named : List (String × Raw)) : Prop :=
  List.Forall₂ (fun m n => Denotes m.1 (Utf8.encode n.1) ∧ m.2 = n.2) members named

/-- What the members make of a state, where `Takes` is what one member makes of it. -/
def Runs (Takes : σ → String → Raw → σ → Prop) : σ → List (String × Raw) → σ → Prop
  | state, [], final => final = state
  | state, (key, v) :: named, final => ∃ next, Takes state key v next ∧ Runs Takes next named final

/-- What an assembly makes of a member: a known key is read after its colon, and any value under
another key changes nothing. -/
structure Assembly.Means (a : Assembly σ) (Takes : σ → String → Raw → σ → Prop) : Prop where
  known {key : String} {update : σ → List UInt8 → Reading σ} (h : a.update key = some update)
    (state next : σ) (bs rest : List UInt8) :
    update state bs = .ok (next, rest) ↔
      ∃ before after text v, bs = before ++ 58 :: (after ++ (text ++ rest)) ∧ Blank before ∧
        Blank after ∧ Spells text v ∧ Takes state key v next
  unknown {key : String} (h : a.update key = none) (state next : σ) (v : Raw) :
    Takes state key v next ↔ next = state

variable {a : Assembly σ} {Takes : σ → String → Raw → σ → Prop} {state final : σ} {fuel : Nat}

/-- Members that were read are spelled, and made of the state what they mean. -/
theorem Assembly.Means.exists_members (ha : a.Means Takes)
    (h : readMembers a fuel first state bs = .ok (final, rest)) :
    ∃ inner members named, bs = inner ++ rest ∧ SpellsMembers first inner members ∧
      Keyed members named ∧ Runs Takes state named final := by
  induction fuel generalizing first state bs with
  | zero => simp [readMembers, stopAt] at h
  | succ fuel ih =>
    rw [readMembers] at h
    split at h
    · cases h
    · cases h
      exact ⟨[], [], [], rfl, .nil, List.Forall₂.nil, rfl⟩
    next afterQuote hkey =>
    obtain ⟨lead, rfl, hlead⟩ := nextKey_eq_some_iff.mp hkey
    split at h
    · cases h
    next key afterKey hstring =>
    obtain ⟨lexeme, rfl, hlexeme⟩ := string_eq_ok_iff.mp hstring
    have hmember : ∀ {before after text inner : List UInt8} {v : Raw} {next : σ}
        {members : List (List UInt8 × Raw)} {named : List (String × Raw)},
        afterKey = before ++ 58 :: (after ++ (text ++ (inner ++ rest))) → Blank before →
          Blank after → Spells text v → Takes state key v next →
          SpellsMembers false inner members → Keyed members named → Runs Takes next named final →
          ∃ inner members named, lead ++ 34 :: (lexeme ++ afterKey) = inner ++ rest ∧
            SpellsMembers first inner members ∧ Keyed members named ∧
            Runs Takes state named final := by
      intro before after text inner v next members named heq hbefore hafter hspells htakes hlater
        hkeyed hruns
      exact ⟨_, (lexeme, v) :: members, (key, v) :: named, by simp [heq],
        .cons hlead hlexeme.isString hbefore hafter hspells hlater,
        List.Forall₂.cons ⟨hlexeme, rfl⟩ hkeyed,
        next, htakes, hruns⟩
    split at h
    · next update hupdate =>
      split at h
      · cases h
      next next' ahead hread =>
      obtain ⟨before, after, text, v, heq, hbefore, hafter, hspells, htakes⟩ :=
        (ha.known hupdate _ _ _ _).mp hread
      obtain ⟨inner, members, named, rfl, hlater, hkeyed, hruns⟩ := ih h
      exact hmember heq hbefore hafter hspells htakes hlater hkeyed hruns
    · next hupdate =>
      split at h
      · cases h
      next afterColon hcolon =>
      obtain ⟨before, rfl, hbefore⟩ := readColon_eq_ok_iff.mp hcolon
      split at h
      · cases h
      next v ahead hnext =>
      obtain ⟨after, text, rfl, hafter, hspells⟩ := exists_spells_of_next hnext
      obtain ⟨inner, members, named, rfl, hlater, hkeyed, hruns⟩ := ih h
      exact hmember rfl hbefore hafter hspells ((ha.unknown hupdate _ _ _).mpr rfl) hlater hkeyed
        hruns

/-- Members are read up to the end of their object, where they mean something for the state. -/
theorem Assembly.Means.readMembers_append (ha : a.Means Takes) {inner : List UInt8}
    {members : List (List UInt8 × Raw)} {named : List (String × Raw)}
    (hinner : SpellsMembers first inner members) (hkeyed : Keyed members named)
    (hruns : Runs Takes state named final) (hblanks : Blank blanks)
    (hfuel : inner.length < fuel) (rest : List UInt8) :
    readMembers a fuel first state (inner ++ (blanks ++ 125 :: rest)) =
      .ok (final, blanks ++ 125 :: rest) := by
  induction fuel generalizing first state inner members named with
  | zero => omega
  | succ fuel ih =>
    cases hinner with
    | nil =>
      cases hkeyed
      have hend : nextKey first (blanks ++ 125 :: rest) = .ok none :=
        nextKey_eq_none_iff.mpr ⟨blanks, rest, rfl, hblanks⟩
      rw [Runs] at hruns
      simp [readMembers, hend, hruns]
    | @cons _ lead lexeme before after text inner v members hlead hkey hbefore hafter hspells
        hlater =>
      cases hkeyed with
      | @cons _ m _ named hm hkeyed =>
        obtain ⟨key, _⟩ := m
        obtain ⟨hlexeme, rfl⟩ := hm
        obtain ⟨next, htakes, hruns⟩ := hruns
        simp only [List.length_append, List.length_cons] at hfuel
        have htail := ih hlater hkeyed hruns (by omega)
        have hends : EndsNumber (inner ++ (blanks ++ 125 :: rest)) :=
          hlater.endsNumber (endsNumber_blank hblanks (by decide))
        generalize hahead : inner ++ (blanks ++ 125 :: rest) = ahead at htail hends
        have hnext : nextKey first (lead ++ 34 :: (lexeme ++ (before ++ 58 :: (after ++
            (text ++ ahead))))) = .ok (some (lexeme ++ (before ++ 58 :: (after ++
              (text ++ ahead))))) := nextKey_eq_some_iff.mpr ⟨lead, rfl, hlead⟩
        have hstring : string (lexeme ++ (before ++ 58 :: (after ++ (text ++ ahead)))) =
            .ok (key, before ++ 58 :: (after ++ (text ++ ahead))) :=
          string_eq_ok_iff.mpr ⟨lexeme, rfl, hlexeme⟩
        simp only [List.append_assoc, List.cons_append, hahead]
        rw [readMembers, hnext]
        simp only [hstring]
        cases hupdate : a.update key with
        | some update =>
          have hread : update state (before ++ 58 :: (after ++ (text ++ ahead))) =
              .ok (next, ahead) := (ha.known hupdate _ _ _ _).mpr
            ⟨before, after, text, v, rfl, hbefore, hafter, hspells, htakes⟩
          simp only [hread, htail]
        | none =>
          have hcolon : readColon (before ++ 58 :: (after ++ (text ++ ahead))) =
              .ok (after ++ (text ++ ahead)) := readColon_eq_ok_iff.mpr ⟨before, rfl, hbefore⟩
          obtain rfl := (ha.unknown hupdate _ _ _).mp htakes
          simp only [hcolon, next_append hspells hafter hends, htail]

/-- A field is read once: where nothing was read for it before, by its own reader. -/
theorem readOnce_eq_ok_iff {read : List UInt8 → Reading α} {Means : Raw → α → Prop}
    (hread : Reads read Means) (key : String) (before : Option α) (set : α → σ) :
    readOnce key before set read bs = .ok (final, rest) ↔
      ∃ blanks gap text v, bs = blanks ++ 58 :: (gap ++ (text ++ rest)) ∧ Blank blanks ∧
        Blank gap ∧ Spells text v ∧ before = none ∧ ∃ a, Means v a ∧ final = set a := by
  unfold readOnce
  constructor
  · intro h
    split at h
    · cases h
    split at h
    · cases h
    next ahead hcolon =>
    obtain ⟨blanks, rfl, hblanks⟩ := readColon_eq_ok_iff.mp hcolon
    split at h
    · cases h
    next a ahead hvalue =>
    cases h
    obtain ⟨gap, text, v, rfl, hgap, hspells, hmeans⟩ := (hread _ _ _).mp hvalue
    exact ⟨blanks, gap, text, v, rfl, hblanks, hgap, hspells, rfl, a, hmeans, rfl⟩
  · rintro ⟨blanks, gap, text, v, rfl, hblanks, hgap, hspells, rfl, a, hmeans, rfl⟩
    have hcolon : readColon (blanks ++ 58 :: (gap ++ (text ++ rest))) = .ok (gap ++ (text ++ rest)) :=
      readColon_eq_ok_iff.mpr ⟨blanks, rfl, hblanks⟩
    have hvalue := (hread _ a rest).mpr ⟨gap, text, v, rfl, hgap, hspells, hmeans⟩
    simp only [hcolon, hvalue]

/-- What becomes of a field that is read from the values under its key: it keeps what it had where
there is none, and a lone value sets it where it had nothing. -/
def Sets (Means : Raw → α → Prop) (before : Option α) (values : List Raw) (after : Option α) :
    Prop :=
  values = [] ∧ after = before ∨ before = none ∧ ∃ v a, values = [v] ∧ Means v a ∧ after = some a

/-- The values under a key. -/
def valuesOf (key : String) (named : List (String × Raw)) : List Raw :=
  (named.filter (·.1 = key)).map (·.2)

theorem sets_cons_iff {Means : Raw → α → Prop} {before after : Option α} {v : Raw}
    {values : List Raw} :
    Sets Means before (v :: values) after ↔
      before = none ∧ ∃ a, Means v a ∧ Sets Means (some a) values after := by
  simp only [Sets, List.cons_ne_nil, List.cons.injEq, false_and, false_or, reduceCtorEq, or_false]
  constructor
  · rintro ⟨hbefore, _, a, ⟨rfl, rfl⟩, hmeans, rfl⟩
    exact ⟨hbefore, a, hmeans, rfl, rfl⟩
  · rintro ⟨hbefore, a, hmeans, rfl, rfl⟩
    exact ⟨hbefore, v, a, ⟨rfl, rfl⟩, hmeans, rfl⟩

theorem valuesOf_cons_self (key : String) (v : Raw) (named : List (String × Raw)) :
    valuesOf key ((key, v) :: named) = v :: valuesOf key named := by
  simp [valuesOf]

theorem valuesOf_cons_of_ne {key other : String} (h : other ≠ key) (v : Raw)
    (named : List (String × Raw)) : valuesOf key ((other, v) :: named) = valuesOf key named := by
  simp [valuesOf, h]

/-! ## Records -/

section Record

variable {named listed : List UInt8 → Reading α} {name : String} {r : α} {tail : List UInt8}

/-- A record that is written as an object. -/
theorem readRecord_of_brace (hblanks : Blank blanks) :
    readRecord name named listed (blanks ++ 123 :: tail) = .ok (r, rest) ↔
      ∃ ahead, named tail = .ok (r, ahead) ∧ endObject ahead = .ok rest := by
  unfold readRecord
  rw [skipBlank_append_cons (show isBlankByte 123 = false by decide) hblanks]
  dsimp only
  rw [if_pos rfl]
  constructor
  · intro h
    split at h
    · cases h
    next r' ahead hread =>
    obtain ⟨_, hend, heq⟩ := map_eq_ok_iff.mp h
    cases heq
    exact ⟨ahead, settle_eq_ok_iff.mp hread, hend⟩
  · rintro ⟨ahead, hread, hend⟩
    rw [settle_eq_ok_iff.mpr hread]
    exact map_eq_ok_iff.mpr ⟨rest, hend, rfl⟩

/-- A record that is written as a list. -/
theorem readRecord_of_bracket (hblanks : Blank blanks) :
    readRecord name named listed (blanks ++ 91 :: tail) = .ok (r, rest) ↔
      ∃ ahead, listed tail = .ok (r, ahead) ∧ endList ahead = .ok rest := by
  unfold readRecord
  rw [skipBlank_append_cons (show isBlankByte 91 = false by decide) hblanks]
  dsimp only
  rw [if_neg (by decide), if_pos rfl]
  constructor
  · intro h
    split at h
    · cases h
    next r' ahead hread =>
    obtain ⟨_, hend, heq⟩ := map_eq_ok_iff.mp h
    cases heq
    exact ⟨ahead, settle_eq_ok_iff.mp hread, hend⟩
  · rintro ⟨ahead, hread, hend⟩
    rw [settle_eq_ok_iff.mpr hread]
    exact map_eq_ok_iff.mpr ⟨rest, hend, rfl⟩

theorem exists_opener_of_readRecord (h : readRecord name named listed bs = .ok (r, rest)) :
    ∃ blanks tail, Blank blanks ∧ (bs = blanks ++ 123 :: tail ∨ bs = blanks ++ 91 :: tail) := by
  unfold readRecord at h
  split at h
  · cases h
  next b tail hskip =>
  obtain ⟨-, blanks, hblanks, rfl⟩ := skipBlank_eq_cons_iff.mp hskip
  split at h
  · next hb => exact ⟨blanks, tail, hblanks, .inl (by rw [hb])⟩
  split at h
  · next hb => exact ⟨blanks, tail, hblanks, .inr (by rw [hb])⟩
  · exact absurd h (refuse_ne_ok _ _ _)

/-- A record is read from the members of its object or from the items of its list. -/
theorem readRecord_reads {Named : List (List UInt8 × Raw) → α → Prop}
    {Listed : List Raw → α → Prop} (hnamed : ReadsMembers named Named)
    (hlisted : ReadsItems listed Listed) (name : String) :
    Reads (readRecord name named listed) fun v a =>
      (∃ members, v = .obj members ∧ Named members a) ∨
        ∃ items, v = .arr items ∧ Listed items a := by
  intro bs a rest
  constructor
  · intro h
    obtain ⟨blanks, tail, hblanks, rfl | rfl⟩ := exists_opener_of_readRecord h
    · obtain ⟨inner, gap, members, rfl, hgap, hspells, hmeans⟩ :=
        (hnamed _ _ _).mp ((readRecord_of_brace hblanks).mp h)
      exact ⟨blanks, 123 :: (inner ++ (gap ++ [125])), _, by simp, hblanks, .obj hspells hgap,
        .inl ⟨members, rfl, hmeans⟩⟩
    · obtain ⟨inner, gap, items, rfl, hgap, hspells, hmeans⟩ :=
        (hlisted _ _ _).mp ((readRecord_of_bracket hblanks).mp h)
      exact ⟨blanks, 91 :: (inner ++ (gap ++ [93])), _, by simp, hblanks, .arr hspells hgap,
        .inr ⟨items, rfl, hmeans⟩⟩
  · rintro ⟨blanks, text, v, rfl, hblanks, hspells, ⟨members, rfl, hmeans⟩ | ⟨items, rfl, hmeans⟩⟩
    · cases hspells with
      | @obj inner gap _ hmembers hgap =>
        have hread := (hnamed _ a rest).mpr ⟨inner, gap, members, rfl, hgap, hmembers, hmeans⟩
        simpa using (readRecord_of_brace hblanks).mpr hread
    · cases hspells with
      | @arr inner gap _ hitems hgap =>
        have hread := (hlisted _ a rest).mpr ⟨inner, gap, items, rfl, hgap, hitems, hmeans⟩
        simpa using (readRecord_of_bracket hblanks).mpr hread

end Record

/-- An item that was read has its text after its lead. -/
theorem Reads.exists_item {read : List UInt8 → Reading α} {Means : Raw → α → Prop}
    (hread : Reads read Means) {a : α} {ahead : List UInt8}
    (hnext : nextItem first bs = .ok (some ahead)) (hvalue : read ahead = .ok (a, rest)) :
    ∃ lead text v, bs = lead ++ (text ++ rest) ∧ Lead first lead ∧ Spells text v ∧ Means v a := by
  obtain ⟨lead, b, tail, rfl, hcons, hlead, hb, -⟩ := nextItem_eq_some_iff.mp hnext
  obtain ⟨blanks, text, v, rfl, hblanks, hspells, hmeans⟩ := (hread _ _ _).mp hvalue
  obtain rfl := hblanks.eq_nil hcons.symm hb
  exact ⟨lead, text, v, rfl, hlead, hspells, hmeans⟩

/-- The text of an item after its lead is read. -/
theorem Reads.item_append {read : List UInt8 → Reading α} {Means : Raw → α → Prop}
    (hread : Reads read Means) {a : α} {lead text : List UInt8} {v : Raw} (hlead : Lead first lead)
    (hspells : Spells text v) (hmeans : Means v a) (rest : List UInt8) :
    nextItem first (lead ++ (text ++ rest)) = .ok (some (text ++ rest)) ∧
      read (text ++ rest) = .ok (a, rest) := by
  obtain ⟨b, tail, rfl, hb, hne⟩ := hspells.head
  exact ⟨nextItem_eq_some_iff.mpr ⟨lead, b, tail ++ rest, rfl, rfl, hlead, hb, hne⟩,
    (hread _ _ _).mpr ⟨[], b :: tail, v, rfl, blank_nil, hspells, hmeans⟩⟩

end VaultAccess.Paging
