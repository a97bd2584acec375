import TargetUri.Net.Ip
import TargetUri.Text.Percent
import TargetUri.Url.Domain

set_option autoImplicit false

/-!
# Hosts of URLs

A host as a URL of a web scheme may spell it, and the one way in which it is written back: domain
names in ASCII and lower case, IPv4 addresses as dotted quads, IPv6 addresses with the longest run
of zero groups elided.

## Main definitions

* `TargetUri.Url.host?` — the written form of a host, or nothing for text that is no host.

## Design

The rules are those of the WHATWG URL standard. A domain whose last label is a number is an IPv4
address, which may have fewer than four parts and octal or hexadecimal ones; when it is not a valid
one the host is refused. A domain is written in its ASCII form, whatever script it is spelled in.
-/

namespace TargetUri.Url

/-! ## IPv4 -/

/-- The value of a digit in any base up to sixteen. -/
def digitBelow? (base : Nat) (c : Char) : Option Nat :=
  match Hex.value? c with
  | some d => if d < base then some d else none
  | none => none

/-- The value of digits in a base; none are zero. -/
def numberIn? (base : Nat) (cs : List Char) : Option Nat :=
  (cs.mapM (digitBelow? base)).map (Ip.ofDigits base)

/-- The value of a part of an IPv4 address: hexadecimal after `0x`, octal after `0`, else
decimal. -/
def v4Number? : List Char → Option Nat
  | [] => none
  | '0' :: 'x' :: cs => numberIn? 16 cs
  | '0' :: 'X' :: cs => numberIn? 16 cs
  | '0' :: c :: cs => numberIn? 8 (c :: cs)
  | cs => numberIn? 10 cs

/-- The labels of a domain, without the empty one after a final point. -/
def labels (cs : List Char) : List (List Char) :=
  let ls := cs.splitOn '.'
  if 1 < ls.length ∧ ls.getLast? = some [] then ls.dropLast else ls

/-- Whether the last label of a domain is a number, so that the domain is meant as an address. -/
def endsInNumber (cs : List Char) : Bool :=
  match (labels cs).getLast? with
  | some l => (l != [] && l.all Char.isDigit) || (v4Number? l).isSome
  | none => false

/-- The 32-bit value of one to four parts: all but the last are octets, and the last fills what is
left. -/
def v4Value? (parts : List Nat) : Option Nat :=
  match parts.reverse with
  | [] => none
  | last :: above =>
    let room := Nat.pow 256 (5 - parts.length)
    if 4 < parts.length ∨ above.any (255 < ·) ∨ room ≤ last then none
    else some (Ip.ofDigits 256 above.reverse * room + last)

/-- A 32-bit value as a dotted quad. -/
def v4Text (v : Nat) : String :=
  String.intercalate "." ([v / 0x1000000, v / 0x10000 % 256, v / 256 % 256, v % 256].map toString)

/-! ## IPv6 -/

/-- The number of leading zero groups. -/
def zerosAhead (gs : List Nat) : Nat := (gs.takeWhile (· == 0)).length

/-- The start and length of the first longest run of zero groups among those from `start` on. -/
def longestZeros (start : Nat) : List Nat → Nat × Nat
  | [] => (start, 0)
  | g :: gs =>
    let here := (start, zerosAhead (g :: gs))
    let later := longestZeros (start + 1) gs
    if here.2 < later.2 then later else here

/-- Groups between colons, in lower-case hexadecimal without leading zeros. -/
def v6Groups (gs : List Nat) : String :=
  String.intercalate ":" (gs.map fun g => String.ofList (Nat.toDigits 16 g))

/-- Eight groups, the first longest run of at least two zero groups elided. -/
def v6Text (gs : List Nat) : String :=
  let (start, length) := longestZeros 0 gs
  if length < 2 then v6Groups gs
  else v6Groups (gs.take start) ++ "::" ++ v6Groups (gs.drop (start + length))

/-! ## Domains -/

/-- A character that no domain holds. -/
def isForbidden (c : Char) : Bool :=
  c.toNat ≤ 0x20 || c.toNat == 0x7F ||
    c ∈ ['#', '/', ':', '<', '>', '?', '@', '[', '\\', ']', '^', '|', '%']

/-- The bytes of a text in which percent triples stand for bytes; other percent signs stand for
themselves. -/
def percentDecode : List Char → Bytes
  | [] => []
  | '%' :: h :: l :: cs =>
    match Hex.value? h, Hex.value? l with
    | some hi, some lo => UInt8.ofNat (hi * 16 + lo) :: percentDecode cs
    | _, _ => String.utf8EncodeChar '%' ++ percentDecode (h :: l :: cs)
  | c :: cs => String.utf8EncodeChar c ++ percentDecode cs

/-- The written form of a domain or an IPv4 address. -/
def domain? (cs : List Char) : Option String := do
  let domain ← asciiDomain? (Utf8.decodeLossy (percentDecode cs))
  if domain = [] ∨ domain.any isForbidden then none
  else if endsInNumber domain then
    (((labels domain).mapM v4Number?).bind v4Value?).map v4Text
  else some (String.ofList domain)

/-- The written form of a host. An IPv6 address stands in brackets. -/
def host? : List Char → Option String
  | '[' :: cs =>
    if cs.getLast? = some ']' then
      (Ip.groups? cs.dropLast).map fun gs => "[" ++ v6Text gs ++ "]"
    else none
  | cs => domain? cs

end TargetUri.Url
