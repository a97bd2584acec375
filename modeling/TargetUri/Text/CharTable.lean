set_option autoImplicit false

/-!
# Tables of characters

Three ways to list characters of a property by code point: ranges, runs that lie at one distance
from other characters, and rows of characters with a text for each.

## Main definitions

* `TargetUri.Text.inRanges` — whether a code point lies in a range.
* `TargetUri.Text.CharRun`, `TargetUri.Text.image?` — characters that correspond to others at a
  distance.
* `TargetUri.Text.CharWords`, `TargetUri.Text.CharWords.rows`, `TargetUri.Text.word?` — characters
  that correspond to texts.
-/

namespace TargetUri.Text

/-- Whether a code point lies in one of the ranges. -/
def inRanges (n : Nat) (ranges : List (Nat × Nat)) : Bool :=
  ranges.any fun r => r.1 ≤ n && n ≤ r.2

/-! ## Runs -/

/-- A run of characters that correspond to characters at one distance: the code points `first`,
`first + step`, … up to `last`. -/
structure CharRun where
  /-- the first code point -/
  first : Nat
  /-- the last code point -/
  last : Nat
  /-- one for a solid run, two for a run of alternating capital and small letters -/
  step : Nat
  /-- how far the corresponding character is from the character -/
  offset : Int
deriving Repr

/-- Whether a code point is one of a run. -/
def CharRun.contains (r : CharRun) (n : Nat) : Bool :=
  r.first ≤ n && n ≤ r.last && (n - r.first) % r.step == 0

/-- The character that corresponds to a code point, if a run contains it. -/
def image? (runs : List CharRun) (n : Nat) : Option Char :=
  (runs.find? (·.contains n)).map fun r => Char.ofNat ((n : Int) + r.offset).toNat

/-! ## Words -/

/-- Characters in a row and a text for each of them, the texts separated by spaces. -/
structure CharWords where
  /-- the code point of the first character -/
  first : Nat
  /-- the texts -/
  words : String
deriving Repr

/-- The texts of each row, cut apart. -/
def CharWords.rows (table : List CharWords) : List (Nat × List (List Char)) :=
  table.map fun r => (r.first, r.words.toList.splitOn ' ')

/-- The text for a code point, if a row has one. -/
def word? (rows : List (Nat × List (List Char))) (n : Nat) : Option (List Char) :=
  rows.findSome? fun r => if r.1 ≤ n then r.2[n - r.1]? else none

end TargetUri.Text
