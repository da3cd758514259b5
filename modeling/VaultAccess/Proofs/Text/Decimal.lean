import VaultAccess.Text.Decimal

/-!
# Decimal text reads back

A word is read back from its decimal text, and the text is never empty. Reading accepts the decimal
texts of words and no others.
-/
namespace VaultAccess.Text.Decimal

theorem digit?_of_isDigit {c : Char} (h : c.isDigit) : digit? c = some (c.toNat - 48) := by
  rw [digit?, if_pos]
  simp only [Char.isDigit, Bool.and_eq_true, decide_eq_true_eq] at h
  exact h

/-- Reading digits adds them up from the left. -/
theorem readDigits_eq_some {cs : List Char} (h : ∀ c ∈ cs, c.isDigit) (acc : Nat) :
    readDigits acc cs = some (Nat.ofDigitChars 10 cs acc) := by
  induction cs generalizing acc with
  | nil => simp [readDigits]
  | cons c cs ih =>
    rw [readDigits, digit?_of_isDigit (h c (by simp))]
    simp only [ih fun d hd => h d (by simp [hd]), Nat.ofDigitChars_cons]
    rfl

theorem isDigit_of_mem_write {n : Nat} {c : Char} (h : c ∈ Nat.toDigits 10 n) : c.isDigit :=
  Nat.isDigit_of_mem_toDigits (by decide) (by decide) h

theorem digits_toDigits (n : Nat) : digits (Nat.toDigits 10 n) = Nat.toDigits 10 n := by
  unfold digits
  split
  · next rest hs =>
    have hp : '+' ∈ Nat.toDigits 10 n := by rw [hs]; exact List.mem_cons_self
    exact absurd (isDigit_of_mem_write hp) (by decide)
  · rfl

/-- A word is read back from its text. -/
@[simp] theorem word?_write {n : Nat} (h : n < wordLimit) : word? (write n) = some n := by
  have hr := readDigits_eq_some (fun c hc => isDigit_of_mem_write (n := n) hc) 0
  rw [word?, write, String.toList_ofList, digits_toDigits]
  split
  · next hs => exact absurd hs Nat.toDigits_ne_nil
  · rw [hr, Nat.ofDigitChars_ten_toDigits]
    simp only [if_pos h]

/-- That a text writes a number: with decimal digits, at least one, after at most one plus sign. -/
def Writes (s : String) (n : Nat) : Prop :=
  ∃ ds : List Char, ds ≠ [] ∧ (∀ d ∈ ds, d.isDigit) ∧ (s.toList = ds ∨ s.toList = '+' :: ds) ∧
    Nat.ofDigitChars 10 ds 0 = n

theorem isDigit_of_digit? {c : Char} {d : Nat} (h : digit? c = some d) : c.isDigit := by
  unfold digit? at h
  split at h
  · next hrange =>
    simp only [Char.isDigit, Bool.and_eq_true, decide_eq_true_eq]
    exact hrange
  · cases h

/-- What is read consists of digits. -/
theorem isDigit_of_readDigits {cs : List Char} {acc n : Nat} (h : readDigits acc cs = some n) :
    ∀ c ∈ cs, c.isDigit := by
  induction cs generalizing acc with
  | nil => simp
  | cons c cs ih =>
    rw [readDigits] at h
    cases hc : digit? c with
    | none =>
      rw [hc] at h
      cases h
    | some d =>
      rw [hc] at h
      intro x hx
      rcases List.mem_cons.mp hx with rfl | hx
      · exact isDigit_of_digit? hc
      · exact ih h x hx

theorem digits_eq (cs : List Char) : cs = digits cs ∨ cs = '+' :: digits cs := by
  unfold digits
  split
  · exact .inr rfl
  · exact .inl rfl

theorem digits_of_isDigit {ds : List Char} (h : ∀ d ∈ ds, d.isDigit) : digits ds = ds := by
  unfold digits
  split
  · exact absurd (h '+' List.mem_cons_self) (by decide)
  · rfl

/-- Where there are digits, the word that they write is read if it is one. -/
theorem word?_of_digits {s : String} {ds : List Char} (hs : digits s.toList = ds) (hne : ds ≠ [])
    (hd : ∀ d ∈ ds, d.isDigit) :
    word? s = if Nat.ofDigitChars 10 ds 0 < wordLimit then some (Nat.ofDigitChars 10 ds 0)
      else none := by
  rw [word?, hs]
  split
  · exact absurd rfl hne
  · rw [readDigits_eq_some hd]

/-- A number beyond the words is not read back. -/
theorem word?_write_of_le {n : Nat} (h : wordLimit ≤ n) : word? (write n) = none := by
  have hdigits : digits (write n).toList = Nat.toDigits 10 n := by
    rw [write, String.toList_ofList, digits_toDigits]
  rw [word?_of_digits hdigits Nat.toDigits_ne_nil fun _ => isDigit_of_mem_write,
    Nat.ofDigitChars_ten_toDigits, if_neg (by omega)]

/-- Reading accepts exactly the texts that write a word. -/
theorem word?_eq_some_iff {s : String} {n : Nat} :
    word? s = some n ↔ Writes s n ∧ n < wordLimit := by
  constructor
  · intro h
    have hread : digits s.toList ≠ [] ∧ readDigits 0 (digits s.toList) = some n ∧
        n < wordLimit := by
      unfold word? at h
      split at h
      · cases h
      · next cs hne =>
        cases hr : readDigits 0 (digits s.toList) with
        | none =>
          rw [hr] at h
          cases h
        | some m =>
          rw [hr] at h
          by_cases hm : m < wordLimit
          · simp only [if_pos hm, Option.some.injEq] at h
            exact ⟨hne, by rw [h], h ▸ hm⟩
          · simp only [if_neg hm] at h
            cases h
    obtain ⟨hne, hr, hn⟩ := hread
    have hd := isDigit_of_readDigits hr
    rw [readDigits_eq_some hd] at hr
    exact ⟨⟨_, hne, hd, digits_eq _, Option.some.inj hr⟩, hn⟩
  · rintro ⟨⟨ds, hne, hd, hs, rfl⟩, hn⟩
    have hdigits : digits s.toList = ds := by
      rcases hs with hs | hs
      · rw [hs, digits_of_isDigit hd]
      · rw [hs]
        rfl
    rw [word?_of_digits hdigits hne hd, if_pos hn]

theorem not_writes_empty {n : Nat} : ¬Writes "" n := by
  rintro ⟨ds, hne, -, rfl | hplus, -⟩
  · exact hne rfl
  · cases hplus

/-- A number is told by its text. -/
theorem write_injective {n m : Nat} (h : write n = write m) : n = m := by
  have hdigits : Nat.toDigits 10 n = Nat.toDigits 10 m := by
    simpa only [write, String.toList_ofList] using congrArg String.toList h
  rw [← Nat.ofDigitChars_ten_toDigits (n := n), hdigits, Nat.ofDigitChars_ten_toDigits]

@[simp] theorem write_ne_empty (n : Nat) : write n ≠ "" := by
  intro h
  have hl := congrArg String.toList h
  rw [write, String.toList_ofList] at hl
  exact Nat.toDigits_ne_nil hl

end VaultAccess.Text.Decimal
