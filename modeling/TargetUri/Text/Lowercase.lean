import TargetUri.Text.CaseData

set_option autoImplicit false

/-!
# Lower case

The full lower-case form of a text, by the default rules of Unicode and no language's own. Two
rules are not one character for one: a capital I with a dot above becomes an `i` and a combining
dot, and a capital sigma takes its final form at the end of a word.

## Main definitions

* `TargetUri.Text.lower` — the lower-case form of a text.

## Design

A sigma is final when a cased letter stands before it and none after it, both searched past
characters that case rules ignore. The letter before is carried along while reading (`lowerFrom`),
the letter after is looked up (`casedFollows`).
-/

namespace TargetUri.Text

/-- A letter that has case. -/
def isCased (c : Char) : Bool := inRanges c.toNat casedRanges

/-- A character that case rules look past: an accent, an apostrophe, a format character. -/
def isCaseIgnorable (c : Char) : Bool := inRanges c.toNat ignorableRanges

/-- The lower-case form of one character by itself. -/
def lowerChar (c : Char) : List Char :=
  let n := c.toNat
  if n < 0x80 then [c.toLower]
  else if n = 0x130 then ['i', '\u0307']
  else [(image? lowerRuns n).getD c]

/-- Whether the next character that case rules do not look past is a cased letter. -/
def casedFollows (cs : List Char) : Bool :=
  match cs.dropWhile isCaseIgnorable with
  | [] => false
  | c :: _ => isCased c

/-- Lower-cases a text of which the characters before `cs` end in a cased letter (past ignorable
characters) exactly when `afterCased`. -/
def lowerFrom (afterCased : Bool) : List Char → List Char
  | [] => []
  | c :: cs =>
    (if c = 'Σ' then [if afterCased && !casedFollows cs then 'ς' else 'σ'] else lowerChar c) ++
      lowerFrom (if isCaseIgnorable c then afterCased else isCased c) cs

/-- The lower-case form of a text. -/
def lower (s : String) : String := String.ofList (lowerFrom false s.toList)

end TargetUri.Text
