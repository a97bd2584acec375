import TargetUri.Text.MarkData

set_option autoImplicit false

/-!
# Composed text

One spelling for letters with marks: marks on one letter stand in the order of their classes, and a
letter and a mark that are one character are written as that character. The text is taken to hold
only characters that a domain name may hold, for which this is the composed normal form.

## Main definitions

* `TargetUri.Text.isMark`, `TargetUri.Text.markClass` — combining marks and their order.
* `TargetUri.Text.compose` — the composed form of a text.

## Design

Text is spread out into letters and marks (`spread`), marks are put in order by insertion
(`insertMark`), and then each letter takes up the marks after it that it can (`absorb`). A letter
takes up a mark only when no mark left between them has the same class or a higher one. Hangul
syllables are computed: their parts stand in three rows, and syllables follow in the order of the
parts.
-/

namespace TargetUri.Text

/-! ## Marks -/

/-- A combining mark. -/
def isMark (c : Char) : Bool := markClasses.any fun r => r.1 ≤ c.toNat && c.toNat ≤ r.2.1

/-- The class of a combining mark; letters have class zero. -/
def markClass (c : Char) : Nat :=
  match markClasses.find? fun r => r.1 ≤ c.toNat && c.toNat ≤ r.2.1 with
  | some r => r.2.2
  | none => 0

/-! ## Hangul -/

/-- The first code point of syllables. -/
def syllableBase : Nat := 0xAC00

/-- The first code point of leading consonants, of which there are 19. -/
def leadBase : Nat := 0x1100

/-- The first code point of vowels, of which there are 21. -/
def vowelBase : Nat := 0x1161

/-- The code point before the first final consonant, of which there are 27. -/
def finalBase : Nat := 0x11A7

/-- The two parts of a syllable: an open syllable is a consonant and a vowel, a closed one is an
open one and a final consonant. -/
def syllableParts? (n : Nat) : Option (Char × Char) :=
  let s := n - syllableBase
  if n < syllableBase || 19 * 21 * 28 ≤ s then none
  else if s % 28 = 0 then
    some (Char.ofNat (leadBase + s / 28 / 21), Char.ofNat (vowelBase + s / 28 % 21))
  else some (Char.ofNat (n - s % 28), Char.ofNat (finalBase + s % 28))

/-- The syllable of two parts. -/
def syllable? (a b : Nat) : Option Char :=
  if leadBase ≤ a && a < leadBase + 19 && vowelBase ≤ b && b < vowelBase + 21 then
    some (Char.ofNat (syllableBase + ((a - leadBase) * 21 + (b - vowelBase)) * 28))
  else if syllableBase ≤ a && a - syllableBase < 19 * 21 * 28 && (a - syllableBase) % 28 == 0 &&
      finalBase < b && b ≤ finalBase + 27 then
    some (Char.ofNat (a + (b - finalBase)))
  else none

/-! ## Composites -/

/-- The rows of composites. -/
def compositeRows : List (Nat × List (List Char)) := CharWords.rows composites

/-- The two characters that one character is made of. -/
def parts? (c : Char) : Option (Char × Char) :=
  match word? compositeRows c.toNat with
  | some [a, b] => some (a, b)
  | _ => syllableParts? c.toNat

/-- The character that two characters make. -/
def joined? (a b : Char) : Option Char :=
  match compositeRows.findSome? fun r => (r.2.idxOf? [a, b]).map fun i => Char.ofNat (r.1 + i) with
  | some c => some c
  | none => syllable? a.toNat b.toNat

/-- A character and the marks in it, taken apart at most so many times. -/
def spreadChar : Nat → Char → List Char
  | 0, c => [c]
  | depth + 1, c =>
    match parts? c with
    | some (a, b) => spreadChar depth a ++ [b]
    | none => [c]

/-- Text as letters and marks. No character holds more than three marks. -/
def spread (cs : List Char) : List Char := cs.flatMap (spreadChar 3)

/-! ## Order and composition -/

/-- Puts a character in front of marks in order: a mark goes past marks of lower classes. -/
def insertMark (c : Char) : List Char → List Char
  | [] => [c]
  | d :: ds =>
    if markClass d ≠ 0 ∧ markClass d < markClass c then d :: insertMark c ds else c :: d :: ds

/-- Text with the marks on each letter in the order of their classes. -/
def orderMarks (cs : List Char) : List Char := cs.foldr insertMark []

/-- The composed form of a letter, the marks after it that it has not taken up (last one first),
and the text after them. -/
def absorb (letter : Char) (kept : List Char) : List Char → List Char
  | [] => letter :: kept.reverse
  | c :: cs =>
    let isFree : Bool := match kept with
      | [] => true
      | d :: _ => markClass d < markClass c
    match if isFree then joined? letter c else none with
    | some l => absorb l kept cs
    | none =>
      if markClass c = 0 then letter :: kept.reverse ++ absorb c [] cs
      else absorb letter (c :: kept) cs

/-- The composed form of text in letters and marks. Marks before the first letter stay. -/
def composeMarks : List Char → List Char
  | [] => []
  | c :: cs => if markClass c = 0 then absorb c [] cs else c :: composeMarks cs

/-- The composed form of a text. -/
def compose (cs : List Char) : List Char := composeMarks (orderMarks (spread cs))

end TargetUri.Text
