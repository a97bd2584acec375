import TargetUri.Text.Lowercase
import TargetUri.Url.DomainData
import TargetUri.Url.Label
import TargetUri.Url.Punycode

set_option autoImplicit false

/-!
# Domain names

A domain name may be spelled in the letters of any script. Its ASCII form is the one that is
compared and looked up: characters that stand for others are replaced, letters and marks are
composed, and each label that is not ASCII is written in Punycode.

## Main definitions

* `TargetUri.Url.mapDomain?` — a name with the characters that stand for others replaced.
* `TargetUri.Url.asciiDomain?` — the ASCII form of a name.

## Design

The rules are those of the Unicode standard for internationalized domain names, without the
restriction to letters, digits and hyphens and without limits on lengths. A label that is in
Punycode already must be the form of a label that is spelled in only one way; one that decodes to
ASCII is let through.
-/

namespace TargetUri.Url

open Text (inRanges image? word? lowerChar compose)

/-! ## Characters -/

/-- The rows of characters that stand for text. -/
def domainRows : List (Nat × List (List Char)) := Text.CharWords.rows domainWords

/-- What a character of a name stands for: capitals for small letters, and compatible forms of
letters for the letters. -/
def mapChar? (c : Char) : Option (List Char) :=
  let n := c.toNat
  if n < 0x80 then some [c.toLower]
  else if inRanges n ignoredRanges then some []
  else if !inRanges n allowedRanges then none
  else
    match word? domainRows n, image? domainRuns n with
    | some w, _ => some w
    | none, some d => some [d]
    | none, none => some (if inRanges n keptCapitals then [c] else lowerChar c)

/-- A name with the characters that stand for others replaced; nothing when it holds a character
that no name may hold. -/
def mapDomain? (cs : List Char) : Option (List Char) := (cs.mapM mapChar?).map List.flatten

/-! ## Labels -/

/-- What a label in Punycode starts with. -/
def encodedMark : List Char := ['x', 'n', '-', '-']

/-- Whether the text after `xn--` is the Punycode of a label that is spelled in its one way, which
is not itself in Punycode. -/
def isEncoded (cs : List Char) : Bool :=
  match if encodedMark.isPrefixOf cs then none else Punycode.decode? cs with
  | some label => mapDomain? label == some label && compose label == label && isLabel label
  | none => false

/-- The ASCII form of a label. -/
def asciiLabel? (label : List Char) : Option (List Char) :=
  let isAscii := label.all Punycode.isBasic
  if encodedMark.isPrefixOf label then
    if isAscii && isEncoded (label.drop encodedMark.length) then some label else none
  else if isAscii then some label
  else if isLabel label then some (encodedMark ++ Punycode.encode label)
  else none

/-! ## Names -/

/-- **The ASCII form of a name**, label by label; nothing for text that is no name. -/
def asciiDomain? (cs : List Char) : Option (List Char) := do
  let mapped ← mapDomain? cs
  let labels ← ((compose mapped).splitOn '.').mapM asciiLabel?
  return ['.'].intercalate labels

end TargetUri.Url
