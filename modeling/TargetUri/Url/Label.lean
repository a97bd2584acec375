import TargetUri.Text.Compose
import TargetUri.Url.DirectionData

set_option autoImplicit false

/-!
# Labels of domain names

What text a label of an internationalized domain name may be, apart from the characters in it: it
does not start with a mark, joiners stand where they change the shape of letters, and text from
right to left is not mixed with text from left to right.

## Main definitions

* `TargetUri.Url.Direction`, `TargetUri.Url.direction` — the writing direction of a character.
* `TargetUri.Url.isDirected` — the rule on directions.
* `TargetUri.Url.isLabel` — whether a text is a label.

## Design

A label that holds a joiner is judged by its first joiner alone.
-/

namespace TargetUri.Url

open Text (inRanges isMark markClass spacingMarks)

/-! ## Direction -/

/-- How a character takes part in the direction of a text. -/
inductive Direction where
  /-- a letter written from left to right -/
  | leftToRight
  /-- a letter written from right to left -/
  | rightToLeft
  /-- part of a number in Arabic digits -/
  | arabicNumber
  /-- part of a number in European digits -/
  | europeanNumber
  /-- a mark on the character before -/
  | mark
  /-- no direction of its own -/
  | neutral
deriving DecidableEq, Repr

/-- The direction of a character. -/
def direction (c : Char) : Direction :=
  let n := c.toNat
  if n < 0x80 then
    if c.isAlpha then .leftToRight else if c.isDigit then .europeanNumber else .neutral
  else if inRanges n rightToLeft then .rightToLeft
  else if inRanges n arabicNumbers then .arabicNumber
  else if inRanges n europeanNumbers then .europeanNumber
  else if inRanges n neutrals then .neutral
  else if isMark c && !inRanges n spacingMarks then .mark
  else .leftToRight

/-- **A label with text from right to left holds no letter from left to right, has digits of one
kind, and ends in a letter or digit**, but for marks on it. A label without such text may hold
anything. -/
def isDirected (label : List Char) : Bool :=
  let ds := label.map direction
  let core := (ds.reverse.dropWhile (· == .mark)).reverse
  if !ds.any (fun d => d == .rightToLeft || d == .arabicNumber) then true
  else
    !core.contains .leftToRight &&
      !(core.contains .arabicNumber && core.contains .europeanNumber) &&
      (core.getLast?.any fun d => d == .rightToLeft || d == .arabicNumber || d == .europeanNumber)

/-! ## Joiners -/

/-- The character that keeps two letters apart. -/
def nonJoiner : Char := '\u200c'

/-- The character that joins two letters. -/
def joiner : Char := '\u200d'

/-- The class of marks that take the vowel from a consonant, which then joins the next one. -/
def viramaClass : Nat := 9

/-- Whether a joiner has an effect between two texts: after a mark that takes a vowel away, or, to
keep letters apart, between letters that would join. -/
def isEffective (j : Char) (before after : List Char) : Bool :=
  before.getLast?.any (markClass · == viramaClass) ||
    (j == nonJoiner && before.any (inRanges ·.toNat joinsNext) &&
      after.any (inRanges ·.toNat joinsPrevious))

/-! ## Labels -/

/-- Whether a text of characters that a domain name may hold is a label. -/
def isLabel (label : List Char) : Bool :=
  let isJoining (c : Char) : Bool := c == nonJoiner || c == joiner
  match label with
  | [] => false
  | c :: _ =>
    if isMark c then false
    else
      match label.dropWhile (!isJoining ·) with
      | j :: after => isEffective j (label.takeWhile (!isJoining ·)) after
      | [] => isDirected label

end TargetUri.Url
