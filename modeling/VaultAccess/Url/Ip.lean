import VaultAccess.Text.Digits
import VaultAccess.Text.Fields
import VaultAccess.Url.Basic

/-!
# Numeric addresses

A host whose last part is a number is an address of four bytes: one to four numbers, decimal,
octal or hexadecimal, of which the last fills the bytes that are left. A host between brackets is
an address of eight words, with one run of zeros cut short and perhaps four decimal bytes at its
end.
-/
namespace VaultAccess.Url

open Text (isHexDigit numberIn?)

/-- One number of an address of four bytes. -/
def ipv4Number? (part : List Char) : Option Nat :=
  match part with
  | [] => none
  | '0' :: 'x' :: rest => numberIn? 16 rest
  | '0' :: 'X' :: rest => numberIn? 16 rest
  | '0' :: c :: rest => numberIn? 8 (c :: rest)
  | cs => numberIn? 10 cs

/-- The parts of a host without an empty last one. -/
def hostParts (host : List Char) : List (List Char) :=
  let parts := Text.fields '.' host
  if parts.getLast? = some [] then parts.dropLast else parts

/-- Whether the last part of a host is a number. -/
def endsInNumber (host : List Char) : Bool :=
  match (hostParts host).getLast? with
  | none => false
  | some [] => false
  | some last => last.all (fun c => '0' ≤ c && c ≤ '9') || (ipv4Number? last).isSome

/-- The value of an address whose numbers are all bytes but the last. -/
def ipv4Value (leading : List Nat) (last : Nat) : Nat :=
  leading.zipIdx.foldl (fun value (n, i) => value + n * Nat.pow 256 (3 - i)) last

/-- An address of four bytes. -/
def ipv4? (host : List Char) : Except Fault Nat :=
  let parts := hostParts host
  if 4 < parts.length then .error .invalidIpv4
  else
    match parts.mapM ipv4Number? with
    | none => .error .invalidIpv4
    | some numbers =>
      match numbers.getLast? with
      | none => .error .invalidIpv4
      | some last =>
        let leading := numbers.dropLast
        if Nat.pow 256 (4 - leading.length) ≤ last ∨ leading.any (255 < ·) then .error .invalidIpv4
        else .ok (ipv4Value leading last)

/-- The hexadecimal word ahead, of at most four digits. -/
def wordAhead (cs : List Char) : Nat × List Char :=
  let digits := (cs.take 4).takeWhile fun c => isHexDigit c
  ((numberIn? 16 digits).getD 0, cs.drop digits.length)

/-- A decimal byte without superfluous zeros, and what comes after it. -/
def byteAhead? (cs : List Char) : Option (Nat × List Char) :=
  let digits := cs.takeWhile fun c => '0' ≤ c && c ≤ '9'
  let rest := cs.drop digits.length
  match digits with
  | [] => none
  | '0' :: _ :: _ => none
  | ds =>
    if 3 < ds.length then none
    else ((numberIn? 10 ds).filter (· ≤ 255)).map fun n => (n, rest)

/-- Four decimal bytes with points between them, up to the end. -/
def embeddedIpv4? (cs : List Char) : Option (List Nat) := do
  let (a, cs) ← byteAhead? cs
  let cs ← afterPoint cs
  let (b, cs) ← byteAhead? cs
  let cs ← afterPoint cs
  let (c, cs) ← byteAhead? cs
  let cs ← afterPoint cs
  let (d, cs) ← byteAhead? cs
  if cs = [] then some [a * 256 + b, c * 256 + d] else none
where
  afterPoint : List Char → Option (List Char)
    | '.' :: rest => some rest
    | _ => none

/-- The words of an address, and where its cut run of zeros is, if it has one. -/
structure Words where
  words : List Nat
  gap : Option Nat

/-- The words ahead, up to the end, with at most `fuel` steps. -/
def wordsAhead (fuel : Nat) (before : Words) (cs : List Char) : Option Words :=
  match fuel with
  | 0 => none
  | fuel + 1 =>
    match cs with
    | [] => some before
    | ':' :: rest =>
      if before.words.length = 8 ∨ before.gap.isSome then none
      else wordsAhead fuel ⟨before.words, some before.words.length⟩ rest
    | cs =>
      if before.words.length = 8 then none
      else
        let (word, rest) := wordAhead cs
        match rest with
        | '.' :: _ =>
          if rest.length = cs.length ∨ 6 < before.words.length then none
          else (embeddedIpv4? cs).map fun tail => ⟨before.words ++ tail, before.gap⟩
        | [] => some ⟨before.words ++ [word], before.gap⟩
        | ':' :: [] => none
        | ':' :: rest => wordsAhead fuel ⟨before.words ++ [word], before.gap⟩ rest
        | _ => none

/-- An address of eight words, without its brackets. -/
def ipv6? (cs : List Char) : Except Fault (List Nat) :=
  let scanned := match cs with
    | ':' :: ':' :: rest => wordsAhead (cs.length + 1) ⟨[], some 0⟩ rest
    | ':' :: _ => none
    | cs => wordsAhead (cs.length + 1) ⟨[], none⟩ cs
  match scanned with
  | none => .error .invalidIpv6
  | some ⟨words, some i⟩ =>
    .ok (words.take i ++ List.replicate (8 - words.length) 0 ++ words.drop i)
  | some ⟨words, none⟩ => if words.length = 8 then .ok words else .error .invalidIpv6

end VaultAccess.Url
