/-!
# Fields between separators
-/
namespace VaultAccess.Text

/-- The parts of a text between separators: one more than there are separators. -/
def fields (sep : Char) : List Char → List (List Char)
  | [] => [[]]
  | c :: cs =>
    match fields sep cs with
    | [] => [[c]]
    | f :: fs => if c = sep then [] :: f :: fs else (c :: f) :: fs

theorem fields_ne_nil (sep : Char) (cs : List Char) : fields sep cs ≠ [] := by
  cases cs with
  | nil => simp [fields]
  | cons c cs =>
      simp only [fields]
      split
      · simp
      · split <;> simp

/-- Separators cut a text in the same places whatever stands before the first of them. -/
theorem fields_append_cons (sep : Char) (xs ys : List Char) (h : sep ∉ xs) :
    fields sep (xs ++ sep :: ys) = xs :: fields sep ys := by
  induction xs with
  | nil =>
      simp only [List.nil_append, fields]
      split
      · next hy => exact absurd hy (fields_ne_nil sep ys)
      · next hy => simp [hy]
  | cons x xs ih =>
      simp only [List.mem_cons, not_or] at h
      simp only [List.cons_append, fields, ih h.2]
      simp [Ne.symm h.1]

/-- A text without separators is one field. -/
theorem fields_eq_singleton (sep : Char) (xs : List Char) (h : sep ∉ xs) :
    fields sep xs = [xs] := by
  induction xs with
  | nil => rfl
  | cons x xs ih =>
      simp only [List.mem_cons, not_or] at h
      simp only [fields, ih h.2]
      simp [Ne.symm h.1]

theorem length_fields (sep : Char) (xs : List Char) :
    (fields sep xs).length = xs.count sep + 1 := by
  induction xs with
  | nil => rfl
  | cons x xs ih =>
      obtain ⟨f, fs, hf⟩ := List.exists_cons_of_ne_nil (fields_ne_nil sep xs)
      rw [hf] at ih
      by_cases hx : x = sep
      · simp [fields, hf, hx, ← ih]
      · simp [fields, hf, hx, ← ih]

end VaultAccess.Text
