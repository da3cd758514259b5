import VaultAccess.Text.Utf8
import VaultAccess.Url.Idna.Normal
import VaultAccess.Url.Punycode

/-!
# Domain names

The ASCII form of a domain name. Its characters are mapped and composed; then each label is
checked, and a label with a character outside ASCII is written in Punycode after `xn--`. A label
that is already so written has to stand for a label that needs it. Labels may be empty or long.
-/
namespace VaultAccess.Url

/-- ASCII characters that no domain name has. -/
def isForbiddenInDomain (n : Nat) : Bool :=
  n ≤ 0x20 || n == 0x7F || "%#/:<>?@[\\]^|".toList.any (·.toNat == n)

/-- Whether the joiners in a label stand where they have a meaning; `before` are the code points
before the rest, the nearest first. -/
def joinersFit (before : List Nat) : List Nat → Bool
  | [] => true
  | n :: rest =>
    let afterVirama := before.head?.any fun m => Idna.combiningClass m == 9
    let betweenJoining :=
      ((before.dropWhile Idna.isTransparent).head?.any Idna.joinsNext) &&
        ((rest.dropWhile Idna.isTransparent).head?.any Idna.joinsPrevious)
    let fits :=
      if n = 0x200D then afterVirama
      else if n = 0x200C then afterVirama || betweenJoining
      else true
    fits && joinersFit (n :: before) rest

/-- Whether a label that is not ASCII may stand in a domain name. -/
def isLabel (label : List Nat) : Bool :=
  !(label.head?.any Idna.isMark) && joinersFit [] label

/-- Whether a code point is one of those that make a name run from right to left. -/
def turns (n : Nat) : Bool :=
  Idna.direction n = .rightToLeft ∨ Idna.direction n = .arabicNumber

/-- Whether the directions in a label of a name with right-to-left characters agree. -/
def directionsAgree (label : List Nat) : Bool :=
  let ds := label.map Idna.direction
  let last? := (ds.reverse.dropWhile (· == .nonspacing)).head?
  match ds.head? with
  | none => true
  | some .leftToRight =>
    ds.all (fun d => d != .rightToLeft && d != .arabicNumber) &&
      last?.any fun d => d == .leftToRight || d == .europeanNumber
  | some .rightToLeft =>
    ds.all (· != .leftToRight) && !(ds.contains .europeanNumber && ds.contains .arabicNumber) &&
      last?.any fun d => d == .rightToLeft || d == .europeanNumber || d == .arabicNumber
  | some _ => false

/-- A label as it is written and as it is meant. -/
structure Label where
  written : List Nat
  meant : List Nat

/-- A label of a mapped name, unless it may not stand in one. -/
def Label.ofMapped? (label : List Nat) : Option Label :=
  match label with
  | 0x78 :: 0x6E :: 0x2D :: 0x2D :: code =>
    if code.any (128 ≤ ·) then none
    else
      match Punycode.decode (code.map Char.ofNat) with
      | none => none
      | some meant =>
        let meant := meant.map Char.toNat
        if meant.all (· < 128) ∨ meant.any (fun n => Idna.image? n ≠ some [n]) ∨
            Idna.normal meant ≠ meant ∨ !isLabel meant then none
        else some ⟨label, meant⟩
  | label =>
    if label.all (· < 128) then some ⟨label, label⟩
    else if isLabel label then
      some ⟨"xn--".toList.map Char.toNat ++
        (Punycode.encode (label.map Char.ofNat)).map Char.toNat, label⟩
    else none

/-- The ASCII form of a domain name. -/
def asciiDomain? (name : List Char) : Option (List Char) := do
  let mapped ← name.mapM fun c => Idna.image? c.toNat
  let ns := Idna.normal mapped.flatten
  if ns.any isForbiddenInDomain then none
  let labels ← (Text.fields '.' (ns.map Char.ofNat)).mapM fun f => Label.ofMapped? (f.map Char.toNat)
  if labels.any (·.meant.any turns) ∧ !(labels.all fun l => directionsAgree l.meant) then none
  pure ((List.intercalate [46] (labels.map Label.written)).map Char.ofNat)

end VaultAccess.Url
