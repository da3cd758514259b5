/-!
# Punycode

A text as ASCII: its ASCII characters, a hyphen, and the others by ascending code point, each as
a number that says how far to go from the one before. Numbers have digits of radix 36 with
thresholds that adapt to the numbers seen.
-/
namespace VaultAccess.Url.Punycode

/-- The digit of a value below 36. -/
def digit (d : Nat) : Char := Char.ofNat (if d < 26 then 97 + d else 22 + d)

/-- The value of a digit; letters of both cases count the same. -/
def value? (c : Char) : Option Nat :=
  let n := c.toNat
  if 97 ≤ n ∧ n ≤ 122 then some (n - 97)
  else if 65 ≤ n ∧ n ≤ 90 then some (n - 65)
  else if 48 ≤ n ∧ n ≤ 57 then some (n - 22)
  else none

/-- The threshold of the digit at position `k`. -/
def threshold (k bias : Nat) : Nat := min 26 (max 1 (k - bias))

theorem threshold_pos (k bias : Nat) : 1 ≤ threshold k bias := by
  unfold threshold
  omega

/-- Halve the range of a delta until it fits one digit span. -/
def shrink (delta k : Nat) : Nat :=
  if 455 < delta then shrink (delta / 35) (k + 36) else k + 36 * delta / (delta + 38)
termination_by delta
decreasing_by omega

/-- The bias after a delta that brought the number of characters to `count`. -/
def adapt (delta count : Nat) (isFirst : Bool) : Nat :=
  let d := if isFirst then delta / 700 else delta / 2
  shrink (d + d / count) 0

/-- The digits of a number, with what the digit at position `k` leaves for the later ones. -/
def writeNumber (bias k n : Nat) : List Char :=
  if n < threshold k bias then [digit n]
  else
    digit (threshold k bias + (n - threshold k bias) % (36 - threshold k bias)) ::
      writeNumber bias (k + 36) ((n - threshold k bias) / (36 - threshold k bias))
termination_by n
decreasing_by
  have h₁ := threshold_pos k bias
  have h₂ := Nat.div_le_self (n - threshold k bias) (36 - threshold k bias)
  omega

/-- How far the writing of a text has come. -/
structure Progress where
  written : List Char
  delta : Nat
  bias : Nat
  /-- How many characters have been written. -/
  count : Nat

/-- Pass over the text and write the occurrences of the code point `m`. -/
def writeOccurrences (basic m : Nat) (p : Progress) (c : Char) : Progress :=
  if c.toNat < m then { p with delta := p.delta + 1 }
  else if c.toNat = m then
    ⟨p.written ++ writeNumber p.bias 36 p.delta, 0, adapt p.delta (p.count + 1) (p.count == basic),
      p.count + 1⟩
  else p

/-- Write the code points in ascending order. -/
def writeAll (text : List Char) (basic : Nat) : List Nat → Nat → Progress → List Char
  | [], _, p => p.written
  | m :: rest, n, p =>
    let start := { p with delta := p.delta + (m - n) * (p.count + 1) }
    let passed := text.foldl (writeOccurrences basic m) start
    writeAll text basic rest (m + 1) { passed with delta := passed.delta + 1 }

/-- Code points in ascending order without repetition. -/
def ascending (ns : List Nat) : List Nat :=
  (ns.mergeSort (· ≤ ·)).eraseDups

/-- The ASCII form of a text. -/
def encode (text : List Char) : List Char :=
  let basic := text.filter fun c => c.toNat < 128
  let others := ascending ((text.filter fun c => 128 ≤ c.toNat).map Char.toNat)
  let start := if basic = [] then [] else basic ++ ['-']
  writeAll text basic.length others 128 ⟨start, 0, 72, basic.length⟩

/-- The number ahead, added to `i`, with the weight of its next digit. -/
def readNumber (bias k weight i : Nat) : List Char → Option (Nat × List Char)
  | [] => none
  | c :: rest =>
    match value? c with
    | none => none
    | some d =>
      let i := i + d * weight
      let t := threshold k bias
      if Nat.pow 2 32 ≤ i then none
      else if d < t then some (i, rest)
      else readNumber bias (k + 36) (weight * (36 - t)) i rest

theorem readNumber_length {bias k weight i j : Nat} {cs rest : List Char}
    (h : readNumber bias k weight i cs = some (j, rest)) : rest.length < cs.length := by
  induction cs generalizing k weight i with
  | nil => simp [readNumber] at h
  | cons c cs ih =>
      simp only [readNumber] at h
      split at h
      · simp at h
      · split at h
        · simp at h
        · split at h
          · simp only [Option.some.injEq, Prod.mk.injEq] at h
            obtain ⟨-, rfl⟩ := h
            simp
          · have := ih h
            simp only [List.length_cons]
            omega

/-- Insert the characters that the numbers tell, up to the end. -/
def insertAll (n i bias : Nat) (out : List Char) (cs : List Char) : Option (List Char) :=
  match cs with
  | [] => some out
  | c :: rest =>
    match _h : readNumber bias 36 1 i (c :: rest) with
    | none => none
    | some (j, after) =>
      let count := out.length + 1
      let m := n + j / count
      let at' := j % count
      if m.isValidChar then
        insertAll m (at' + 1) (adapt (j - i) count (i == 0))
          (out.take at' ++ [Char.ofNat m] ++ out.drop at') after
      else none
termination_by cs.length
decreasing_by exact readNumber_length _h

/-- The text of which this is the ASCII form. What stands before the last hyphen is ASCII already,
if there is anything. -/
def decode (cs : List Char) : Option (List Char) :=
  let tail := (cs.reverse.takeWhile (· != '-')).reverse
  let head := cs.take (cs.length - tail.length)
  if head.length ≤ 1 then insertAll 128 0 72 [] cs
  else
    let basic := head.dropLast
    if basic.all fun c => c.toNat < 128 then insertAll 128 0 72 basic tail else none

end VaultAccess.Url.Punycode
