import TargetUri.Text.Hex

set_option autoImplicit false

/-!
# IP address literals

The numeric value of an IPv4 or IPv6 literal. An address has many spellings, its value is one, so
what is asked of an address (is it this machine's own?) is asked of the value.

## Main definitions

* `TargetUri.Ip.v4?` — the 32-bit value of a dotted quad.
* `TargetUri.Ip.v6?` — the 128-bit value of an IPv6 literal, its zone dropped.
* `TargetUri.Ip.isV6` — whether a text is an IPv6 literal.
* `TargetUri.Ip.isLocal` — whether a text is a loopback or unspecified address.

## Design

A dotted quad has exactly four decimal octets without leading zeros. An IPv6 literal is a list of
hexadecimal groups of one to four digits, of which one run of at least one zero group may be elided
as `::` and the last two may be written as a dotted quad; a zone may follow after a percent sign.
-/

namespace TargetUri.Ip

/-! ## Dotted quads -/

/-- The value of an octet: one to three digits, no leading zero, at most 255. -/
def octet? (cs : List Char) : Option Nat :=
  let v := Nat.ofDigitChars 10 cs 0
  if cs ≠ [] ∧ cs.length ≤ 3 ∧ cs.all Char.isDigit ∧ (cs.head? = some '0' → cs.length = 1) ∧ v ≤ 255
  then some v else none

/-- The 32-bit value of four octets between points. -/
def v4? (cs : List Char) : Option Nat :=
  match (cs.splitOn '.').mapM octet? with
  | some [a, b, c, d] => some (((a * 256 + b) * 256 + c) * 256 + d)
  | _ => none

/-! ## Groups -/

/-- The value of digits in a base. -/
def ofDigits (base : Nat) (ds : List Nat) : Nat := ds.foldl (fun v d => v * base + d) 0

/-- The 16-bit value of a group: one to four hexadecimal digits. -/
def group? (cs : List Char) : Option Nat :=
  if cs ≠ [] ∧ cs.length ≤ 4 then (cs.mapM Hex.value?).map (ofDigits 16) else none

/-- The last field of a literal: a group, or a dotted quad that stands for two groups. -/
def lastGroups? (cs : List Char) : Option (List Nat) :=
  match v4? cs with
  | some v => some [v / 0x10000, v % 0x10000]
  | none => (group? cs).map ([·])

/-- The groups before an elision: none for an empty text, else fields between colons. -/
def groupsBefore? (cs : List Char) : Option (List Nat) :=
  if cs = [] then some [] else (cs.splitOn ':').mapM group?

/-- The groups at the end of a literal, of which the last two may be a dotted quad. -/
def groupsAtEnd? (cs : List Char) : Option (List Nat) :=
  if cs = [] then some []
  else
    let fields := cs.splitOn ':'
    match fields.dropLast.mapM group?, lastGroups? (fields.getLast?.getD []) with
    | some gs, some last => some (gs ++ last)
    | _, _ => none

/-- The text before and after the first double colon. -/
def splitElision : List Char → Option (List Char × List Char)
  | [] => none
  | ':' :: ':' :: cs => some ([], cs)
  | c :: cs => (splitElision cs).map fun r => (c :: r.1, r.2)

/-- The eight groups of a literal without a zone. An elision stands for at least one group. -/
def groups? (cs : List Char) : Option (List Nat) :=
  match splitElision cs with
  | none =>
    match groupsAtEnd? cs with
    | some gs => if gs.length = 8 then some gs else none
    | none => none
  | some (before, after) =>
    match groupsBefore? before, groupsAtEnd? after with
    | some gs, some hs =>
      if gs.length + hs.length ≤ 7 then
        some (gs ++ List.replicate (8 - gs.length - hs.length) 0 ++ hs)
      else none
    | _, _ => none

/-! ## Literals -/

/-- A character of a zone name. -/
def isZoneChar (c : Char) : Bool := c.isAlphanum || c == '-' || c == '.' || c == ':'

/-- What follows the address: nothing, or a percent sign and a non-empty zone name. -/
def isZone : List Char → Bool
  | [] => true
  | '%' :: z => z != [] && z.all isZoneChar
  | _ => false

/-- The 128-bit value of an IPv6 literal. -/
def v6? (cs : List Char) : Option Nat :=
  if isZone (cs.dropWhile (· != '%')) then
    (groups? (cs.takeWhile (· != '%'))).map (ofDigits 0x10000)
  else none

/-- Whether a text is an IPv6 literal. -/
def isV6 (s : String) : Bool := (v6? s.toList).isSome

/-- **A local address is a loopback or unspecified one.** For IPv6 these are the values one and
zero, for IPv4 the network `127.0.0.0/8` and zero. An IPv4 address ends where a NUL character
stands, and text that is no address is not local. -/
def isLocal (s : String) : Bool :=
  match v6? s.toList with
  | some v => v ≤ 1
  | none =>
    match v4? (s.toList.takeWhile (· != '\x00')) with
    | some v => v / 0x1000000 == 127 || v == 0
    | none => false

end TargetUri.Ip
