import Mathlib.Data.Set.Function
import VaultAccess.Proofs.Json.Strings
import VaultAccess.Proofs.Text.Decimal

/-!
# Indented text tells the value

The indented text of a value without floating point numbers ends where the value does, whatever
follows, and no other such value has it.
-/
namespace VaultAccess.Json

open Text (Decimal.write)
open Text.Utf8 (encodeChars)

variable {v w : Json} {depth : Nat} {rest rest' : List Char}

/-- Values whose numbers are all integers. -/
inductive IsWhole : Json → Prop
  | null : IsWhole .null
  | bool (b : Bool) : IsWhole (.bool b)
  | int (n : Int) : IsWhole (.num (.int n))
  | str (s : String) : IsWhole (.str s)
  | arr {items : List Json} (h : ∀ v ∈ items, IsWhole v) : IsWhole (.arr items)
  | obj {members : Members} (h : ∀ m ∈ members, IsWhole m.2) : IsWhole (.obj members)

/-! ## Strings and numbers -/

theorem quote_append_inj {s t : String} (h : quote s ++ rest = quote t ++ rest') :
    s = t ∧ rest = rest' := by
  have hbytes : quoted s ++ encodeChars rest = quoted t ++ encodeChars rest' := by
    have hquote := congrArg encodeChars h
    simpa [encodeChars_quote] using hquote
  have hscan := string_quoted s (encodeChars rest)
  rw [hbytes, string_quoted] at hscan
  obtain ⟨rfl, -⟩ := Prod.mk.inj (Except.ok.inj hscan)
  exact ⟨rfl, List.append_cancel_left h⟩

/-- That no further digit follows. -/
def EndsDigits (rest : List Char) : Prop := ∀ c ∈ rest.head?, c.isDigit = false

theorem isDigit_of_mem_toList_write {n : Nat} {c : Char} (h : c ∈ (Decimal.write n).toList) :
    c.isDigit = true := by
  rw [Decimal.write, String.toList_ofList] at h
  exact Text.Decimal.isDigit_of_mem_write h

/-- The digits of a text that a number begins are those of the number. -/
theorem takeWhile_write (n : Nat) (h : EndsDigits rest) :
    ((Decimal.write n).toList ++ rest).takeWhile Char.isDigit = (Decimal.write n).toList := by
  rw [List.takeWhile_append_of_pos fun c hc => isDigit_of_mem_toList_write hc]
  cases rest with
  | nil => simp
  | cons c rest =>
    have hc : c.isDigit = false := h c rfl
    simp [hc]

theorem write_append_inj {n m : Nat} (hrest : EndsDigits rest) (hrest' : EndsDigits rest')
    (h : (Decimal.write n).toList ++ rest = (Decimal.write m).toList ++ rest') :
    n = m ∧ rest = rest' := by
  have hdigits : (Decimal.write n).toList = (Decimal.write m).toList := by
    rw [← takeWhile_write n hrest, h, takeWhile_write m hrest']
  obtain rfl := Text.Decimal.write_injective (String.toList_injective hdigits)
  exact ⟨rfl, List.append_cancel_left h⟩

/-- A number begins with a digit. -/
theorem exists_write (n : Nat) :
    ∃ c cs, (Decimal.write n).toList = c :: cs ∧ c.isDigit = true := by
  cases hcs : (Decimal.write n).toList with
  | nil => exact absurd (String.toList_eq_nil_iff.mp hcs) (Text.Decimal.write_ne_empty n)
  | cons c cs =>
    exact ⟨c, cs, rfl, isDigit_of_mem_toList_write (hcs ▸ List.mem_cons_self)⟩

theorem toList_text_of_neg {n : Int} (h : n < 0) :
    (Number.int n).text.toList = '-' :: (Decimal.write n.natAbs).toList := by
  simp [Number.text, h]

theorem toList_text_of_nonneg {n : Int} (h : ¬n < 0) :
    (Number.int n).text.toList = (Decimal.write n.natAbs).toList := by
  simp [Number.text, h]

/-- A number begins with a digit or a minus sign. -/
theorem exists_text (n : Int) :
    ∃ c cs, (Number.int n).text.toList = c :: cs ∧ (c = '-' ∨ c.isDigit = true) := by
  by_cases h : n < 0
  · exact ⟨'-', _, toList_text_of_neg h, .inl rfl⟩
  · obtain ⟨c, cs, hcs, hc⟩ := exists_write n.natAbs
    exact ⟨c, cs, (toList_text_of_nonneg h).trans hcs, .inr hc⟩

theorem not_minus_append {n m : Nat} :
    '-' :: ((Decimal.write n).toList ++ rest) ≠ (Decimal.write m).toList ++ rest' := by
  obtain ⟨c, cs, hcs, hc⟩ := exists_write m
  rw [hcs]
  intro h
  obtain rfl := (List.cons.inj h).1
  cases hc

theorem text_append_inj {n m : Int} (hrest : EndsDigits rest) (hrest' : EndsDigits rest')
    (h : (Number.int n).text.toList ++ rest = (Number.int m).text.toList ++ rest') :
    n = m ∧ rest = rest' := by
  by_cases hn : n < 0 <;> by_cases hm : m < 0
  · rw [toList_text_of_neg hn, toList_text_of_neg hm] at h
    obtain ⟨habs, hrests⟩ := write_append_inj hrest hrest' (List.cons.inj h).2
    exact ⟨by omega, hrests⟩
  · rw [toList_text_of_neg hn, toList_text_of_nonneg hm] at h
    exact absurd h not_minus_append
  · rw [toList_text_of_nonneg hn, toList_text_of_neg hm] at h
    exact absurd h.symm not_minus_append
  · rw [toList_text_of_nonneg hn, toList_text_of_nonneg hm] at h
    obtain ⟨habs, hrests⟩ := write_append_inj hrest hrest' h
    exact ⟨by omega, hrests⟩

/-! ## Forms -/

/-- The form of a value. -/
inductive Form where
  | null
  | bool
  | num
  | str
  | arr
  | obj

def form : Json → Form
  | .null => .null
  | .bool _ => .bool
  | .num _ => .num
  | .str _ => .str
  | .arr _ => .arr
  | .obj _ => .obj

/-- The form of the value that a character begins. -/
def formOf (c : Char) : Form :=
  if c = 'n' then .null
  else if c = 't' ∨ c = 'f' then .bool
  else if c = '"' then .str
  else if c = '[' then .arr
  else if c = '\x7b' then .obj
  else .num

theorem formOf_of_number {c : Char} (h : c = '-' ∨ c.isDigit = true) : formOf c = .num := by
  unfold formOf
  rcases h with rfl | h
  · rfl
  · have hne {d : Char} (hd : d.isDigit = false) : c ≠ d := by
      rintro rfl
      rw [hd] at h
      cases h
    simp [hne (d := 'n') rfl, hne (d := 't') rfl, hne (d := 'f') rfl, hne (d := '"') rfl,
      hne (d := '[') rfl, hne (d := '\x7b') rfl]

/-- The text of a value begins as its form does. -/
theorem exists_head (hv : v.IsWhole) (depth : Nat) :
    ∃ c cs, v.indented depth = c :: cs ∧ formOf c = v.form := by
  cases hv with
  | null => exact ⟨'n', _, rfl, rfl⟩
  | bool b => cases b <;> exact ⟨_, _, rfl, rfl⟩
  | int n =>
    obtain ⟨c, cs, hcs, hc⟩ := exists_text n
    exact ⟨c, cs, hcs, formOf_of_number hc⟩
  | str s => exact ⟨'"', _, rfl, rfl⟩
  | @arr items h => cases items <;> exact ⟨'[', _, rfl, rfl⟩
  | @obj members h => cases members <;> exact ⟨'\x7b', _, rfl, rfl⟩

theorem form_eq_of_indented (hv : v.IsWhole) (hw : w.IsWhole)
    (h : v.indented depth ++ rest = w.indented depth ++ rest') : v.form = w.form := by
  obtain ⟨c, cs, hcs, hc⟩ := exists_head hv depth
  obtain ⟨d, ds, hds, hd⟩ := exists_head hw depth
  rw [hcs, hds, List.cons_append, List.cons_append] at h
  rw [← hc, ← hd, (List.cons.inj h).1]

/-! ## Lists and objects -/

/-- That the text of a value is that of no other one, whatever follows. -/
def Told (v : Json) : Prop :=
  ∀ {w : Json} {depth : Nat} {rest rest' : List Char}, w.IsWhole → EndsDigits rest →
    EndsDigits rest' → v.indented depth ++ rest = w.indented depth ++ rest' → v = w ∧ rest = rest'

theorem endsDigits_items (depth : Nat) (items : List Json) (rest : List Char) :
    EndsDigits (indentedItems depth items ++ rest) := by
  intro c hc
  cases items <;> cases hc <;> rfl

theorem endsDigits_members (depth : Nat) (members : Members) (rest : List Char) :
    EndsDigits (indentedMembers depth members ++ rest) := by
  intro c hc
  obtain _ | ⟨⟨key, v⟩, members⟩ := members <;> cases hc <;> rfl

theorem indentedItems_append_inj {items others : List Json} (hitems : ∀ v ∈ items, Told v)
    (hothers : ∀ w ∈ others, w.IsWhole)
    (h : indentedItems depth items ++ rest = indentedItems depth others ++ rest') :
    items = others ∧ rest = rest' := by
  induction items generalizing others with
  | nil =>
    cases others with
    | nil => exact ⟨rfl, List.append_cancel_left h⟩
    | cons w others => exact absurd (List.cons.inj h).1 (by decide)
  | cons v items ih =>
    cases others with
    | nil => exact absurd (List.cons.inj h).1 (by decide)
    | cons w others =>
      simp only [indentedItems, List.cons_append, List.append_assoc, List.cons.injEq,
        true_and, List.append_cancel_left_eq] at h
      obtain ⟨rfl, hrest⟩ := hitems v List.mem_cons_self (hothers w List.mem_cons_self)
        (endsDigits_items depth items rest) (endsDigits_items depth others rest') h
      obtain ⟨rfl, hrests⟩ := ih (fun v hv => hitems v (List.mem_cons_of_mem _ hv))
        (fun w hw => hothers w (List.mem_cons_of_mem _ hw)) hrest
      exact ⟨rfl, hrests⟩

theorem indentedMembers_append_inj {members others : Members} (hmembers : ∀ m ∈ members, Told m.2)
    (hothers : ∀ m ∈ others, m.2.IsWhole)
    (h : indentedMembers depth members ++ rest = indentedMembers depth others ++ rest') :
    members = others ∧ rest = rest' := by
  induction members generalizing others with
  | nil =>
    cases others with
    | nil => exact ⟨rfl, List.append_cancel_left h⟩
    | cons w others => exact absurd (List.cons.inj h).1 (by decide)
  | cons m members ih =>
    cases others with
    | nil => exact absurd (List.cons.inj h).1 (by decide)
    | cons n others =>
      obtain ⟨key, v⟩ := m
      obtain ⟨other, w⟩ := n
      simp only [indentedMembers, List.cons_append, List.append_assoc, List.cons.injEq,
        true_and, List.append_cancel_left_eq] at h
      obtain ⟨rfl, hvalue⟩ := quote_append_inj h
      simp only [List.cons.injEq, true_and, List.nil_append] at hvalue
      obtain ⟨rfl, hrest⟩ := hmembers (key, v) List.mem_cons_self
        (hothers (key, w) List.mem_cons_self)
        (endsDigits_members depth members rest) (endsDigits_members depth others rest') hvalue
      obtain ⟨rfl, hrests⟩ := ih (fun m hm => hmembers m (List.mem_cons_of_mem _ hm))
        (fun m hm => hothers m (List.mem_cons_of_mem _ hm)) hrest
      exact ⟨rfl, hrests⟩

/-- What follows the opening bracket of a list is the text of its items but for the first
character. -/
theorem indentedItems_of_indented {items others : List Json}
    (h : (arr items).indented depth ++ rest = (arr others).indented depth ++ rest') :
    indentedItems depth items ++ rest = indentedItems depth others ++ rest' := by
  cases items with
  | nil =>
    cases others with
    | nil => exact congrArg _ (List.append_cancel_left h)
    | cons w others => exact absurd (List.cons.inj (List.cons.inj h).2).1 (by decide)
  | cons v items =>
    cases others with
    | nil => exact absurd (List.cons.inj (List.cons.inj h).2).1 (by decide)
    | cons w others => exact congrArg (List.cons ',') (List.cons.inj h).2

theorem indentedMembers_of_indented {members others : Members}
    (h : (obj members).indented depth ++ rest = (obj others).indented depth ++ rest') :
    indentedMembers depth members ++ rest = indentedMembers depth others ++ rest' := by
  obtain _ | ⟨⟨key, v⟩, members⟩ := members <;> obtain _ | ⟨⟨other, w⟩, others⟩ := others
  · exact congrArg _ (List.append_cancel_left h)
  · exact absurd (List.cons.inj (List.cons.inj h).2).1 (by decide)
  · exact absurd (List.cons.inj (List.cons.inj h).2).1 (by decide)
  · exact congrArg (List.cons ',') (List.cons.inj h).2

/-- A value whose numbers are integers is told by its indented text, whatever follows. -/
theorem told (hv : v.IsWhole) : Told v := by
  induction hv with
  | null =>
    intro w depth rest rest' hw _ _ h
    have hform := form_eq_of_indented .null hw h
    cases hw with
    | null => exact ⟨rfl, List.append_cancel_left h⟩
    | _ => cases hform
  | bool b =>
    intro w depth rest rest' hw _ _ h
    have hform := form_eq_of_indented (.bool b) hw h
    cases hw with
    | bool b' =>
      cases b <;> cases b'
      · exact ⟨rfl, List.append_cancel_left h⟩
      · exact absurd (List.cons.inj h).1 (by decide)
      · exact absurd (List.cons.inj h).1 (by decide)
      · exact ⟨rfl, List.append_cancel_left h⟩
    | _ => cases hform
  | int n =>
    intro w depth rest rest' hw hrest hrest' h
    have hform := form_eq_of_indented (.int n) hw h
    cases hw with
    | int m =>
      obtain ⟨rfl, hrests⟩ := text_append_inj hrest hrest' h
      exact ⟨rfl, hrests⟩
    | _ => cases hform
  | str s =>
    intro w depth rest rest' hw _ _ h
    have hform := form_eq_of_indented (.str s) hw h
    cases hw with
    | str t =>
      obtain ⟨rfl, hrests⟩ := quote_append_inj h
      exact ⟨rfl, hrests⟩
    | _ => cases hform
  | @arr items hitems ih =>
    intro w depth rest rest' hw _ _ h
    have hform := form_eq_of_indented (.arr hitems) hw h
    cases hw with
    | @arr others hothers =>
      obtain ⟨rfl, hrests⟩ :=
        indentedItems_append_inj ih hothers (indentedItems_of_indented h)
      exact ⟨rfl, hrests⟩
    | _ => cases hform
  | @obj members hmembers ih =>
    intro w depth rest rest' hw _ _ h
    have hform := form_eq_of_indented (.obj hmembers) hw h
    cases hw with
    | @obj others hothers =>
      obtain ⟨rfl, hrests⟩ :=
        indentedMembers_append_inj ih hothers (indentedMembers_of_indented h)
      exact ⟨rfl, hrests⟩
    | _ => cases hform

theorem toPrettyText_injOn : Set.InjOn toPrettyText {v | v.IsWhole} := by
  intro v hv w hw h
  have htext : v.indented 0 ++ [] = w.indented 0 ++ [] := by
    simpa [toPrettyText] using congrArg String.toList h
  have hends : EndsDigits [] := fun c hc => nomatch hc
  exact (told hv hw hends hends htext).1

end VaultAccess.Json
