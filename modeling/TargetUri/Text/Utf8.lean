set_option autoImplicit false

/-!
# UTF-8

Text as bytes and bytes as text. Two readers share one step, `takeChar`, which reads the first
character of a non-empty byte sequence or names the longest part of it that no character starts
with: the strict reader `decode?` refuses a sequence that holds such a part, the forgiving reader
`decodeLossy` puts the replacement character in its place.

## Main definitions

* `TargetUri.Bytes` — a sequence of bytes.
* `TargetUri.Utf8.encode` — the bytes of a text.
* `TargetUri.Utf8.takeChar` — one step of reading.
* `TargetUri.Utf8.decode?` — the text of well-formed bytes.
* `TargetUri.Utf8.decodeLossy` — the text of any bytes.
* `TargetUri.Utf8.decodeUnmarked?` — the strict reader that drops one leading byte order mark.

## Design

The lead byte alone fixes how many continuation bytes follow and the range of the first of them
(`Lead`); the others are `80` to `BF`. This is the table of well-formed sequences of the Unicode
standard, so overlong forms, surrogates and values past `10FFFF` are refused at the first byte
that shows them.
-/

namespace TargetUri

/-- A sequence of bytes. -/
abbrev Bytes := List UInt8

namespace Utf8

/-- The bytes of a text. -/
def encode (s : String) : Bytes := s.toList.flatMap String.utf8EncodeChar

/-! ## Reading one character -/

/-- What a lead byte announces: the number of continuation bytes, the range that the first of them
must lie in, and the bits of the code point that the lead byte itself carries. -/
structure Lead where
  /-- how many continuation bytes follow -/
  count : Nat
  /-- the least value of the first continuation byte -/
  low : Nat
  /-- the greatest value of the first continuation byte -/
  high : Nat
  /-- the leading bits of the code point -/
  bits : Nat
deriving DecidableEq, Repr

/-- **A character starts with `00`–`7F` or `C2`–`F4`.** After `E0` and `F0` the least continuation
bytes are excluded (they would spell a shorter character), after `ED` and `F4` the greatest (they
would spell a surrogate, or a value past the last code point). -/
def lead? (b : UInt8) : Option Lead :=
  let n := b.toNat
  if n < 0x80 then some ⟨0, 0x80, 0xBF, n⟩
  else if n < 0xC2 then none
  else if n < 0xE0 then some ⟨1, 0x80, 0xBF, n - 0xC0⟩
  else if n < 0xF0 then
    some ⟨2, if n = 0xE0 then 0xA0 else 0x80, if n = 0xED then 0x9F else 0xBF, n - 0xE0⟩
  else if n < 0xF5 then
    some ⟨3, if n = 0xF0 then 0x90 else 0x80, if n = 0xF4 then 0x8F else 0xBF, n - 0xF0⟩
  else none

/-- Reads `count` continuation bytes, the first of them from `low` to `high`, onto the bits read so
far. Gives the code point, or nothing when a byte is missing or out of its range, and what is left
unread: a byte out of its range is left for the next character. -/
def continuation : (count low high bits : Nat) → Bytes → Option Nat × Bytes
  | 0, _, _, bits, bs => (some bits, bs)
  | _ + 1, _, _, _, [] => (none, [])
  | count + 1, low, high, bits, b :: bs =>
    if low ≤ b.toNat ∧ b.toNat ≤ high then
      continuation count 0x80 0xBF (bits * 64 + (b.toNat - 0x80)) bs
    else (none, b :: bs)

/-- One step of reading a non-empty sequence: its first character, or nothing for the longest part
that starts no character, and the bytes after it. -/
def takeChar (b : UInt8) (bs : Bytes) : Option Char × Bytes :=
  match lead? b with
  | none => (none, bs)
  | some l =>
    let r := continuation l.count l.low l.high l.bits bs
    (r.1.map Char.ofNat, r.2)

/-- Reading continuation bytes leaves no more than was there. -/
theorem length_continuation_le (count low high bits : Nat) (bs : Bytes) :
    (continuation count low high bits bs).2.length ≤ bs.length := by
  fun_induction continuation count low high bits bs <;> simp_all
  omega

/-- A step leaves no more than the bytes after the lead byte, so reading ends. -/
theorem length_takeChar_le (b : UInt8) (bs : Bytes) : (takeChar b bs).2.length ≤ bs.length := by
  unfold takeChar
  split
  · exact Nat.le_refl _
  · exact length_continuation_le _ _ _ _ _

/-! ## Reading a sequence -/

/-- The text of well-formed bytes; nothing when some part of them starts no character. -/
def decode? : Bytes → Option (List Char)
  | [] => some []
  | b :: bs =>
    match (takeChar b bs).1 with
    | none => none
    | some c => (decode? (takeChar b bs).2).map (c :: ·)
termination_by bs => bs.length
decreasing_by exact Nat.lt_succ_of_le (length_takeChar_le b bs)

/-- The text of any bytes: each longest part that starts no character is read as `U+FFFD`. -/
def decodeLossy : Bytes → List Char
  | [] => []
  | b :: bs => (takeChar b bs).1.getD '\uFFFD' :: decodeLossy (takeChar b bs).2
termination_by bs => bs.length
decreasing_by exact Nat.lt_succ_of_le (length_takeChar_le b bs)

/-- The strict reader without a leading byte order mark `EF BB BF`, if there is one. -/
def decodeUnmarked? : Bytes → Option (List Char)
  | 0xEF :: 0xBB :: 0xBF :: bs => decode? bs
  | bs => decode? bs

end Utf8

end TargetUri
