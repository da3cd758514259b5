/-!
# Trimming the edges of a text

A text is trimmed of a class of characters at its start, at its end, or at both.
`isBlank` is the Unicode property `White_Space`; zero-width characters are not in it.
-/
namespace VaultAccess.Text

/-- The Unicode property `White_Space`. -/
def isBlank (c : Char) : Bool :=
  let n := c.toNat
  (0x09 ≤ n && n ≤ 0x0D) || n == 0x20 || n == 0x85 || n == 0xA0 || n == 0x1680 ||
    (0x2000 ≤ n && n ≤ 0x200A) || n == 0x2028 || n == 0x2029 || n == 0x202F ||
    n == 0x205F || n == 0x3000

/-- Drop the longest run at the end whose members all satisfy `p`. -/
def dropEnd (p : Char → Bool) (cs : List Char) : List Char :=
  (cs.reverse.dropWhile p).reverse

/-- Drop the runs at both ends whose members all satisfy `p`. -/
def dropEdges (p : Char → Bool) (cs : List Char) : List Char :=
  dropEnd p (cs.dropWhile p)

/-- The text without blanks around it. -/
def trim (s : String) : String := String.ofList (dropEdges isBlank s.toList)

/-- The text without slashes at its end. -/
def trimSlashesEnd (s : String) : String := String.ofList (dropEnd (· == '/') s.toList)

/-- The text without slashes around it. -/
def trimSlashes (s : String) : String := String.ofList (dropEdges (· == '/') s.toList)

@[simp] theorem dropEnd_nil (p : Char → Bool) : dropEnd p [] = [] := rfl

@[simp] theorem dropEdges_nil (p : Char → Bool) : dropEdges p [] = [] := rfl

theorem dropEnd_concat (p : Char → Bool) (cs : List Char) (c : Char) :
    dropEnd p (cs ++ [c]) = if p c then dropEnd p cs else cs ++ [c] := by
  by_cases h : p c <;> simp [dropEnd, h]

theorem dropEnd_eq_self (p : Char → Bool) (cs : List Char) (h : ∀ c ∈ cs, p c = false) :
    dropEnd p cs = cs := by
  have hd : cs.reverse.dropWhile p = cs.reverse := by
    cases hr : cs.reverse with
    | nil => rfl
    | cons c rest =>
        have hc : c ∈ cs := by
          have : c ∈ cs.reverse := by simp [hr]
          simpa using this
        simp [h c hc]
  simp [dropEnd, hd]

theorem dropEdges_eq_self (p : Char → Bool) (cs : List Char) (h : ∀ c ∈ cs, p c = false) :
    dropEdges p cs = cs := by
  have hd : cs.dropWhile p = cs := by
    cases cs with
    | nil => rfl
    | cons c rest => simp [h c (by simp)]
  rw [dropEdges, hd, dropEnd_eq_self p cs h]

end VaultAccess.Text
