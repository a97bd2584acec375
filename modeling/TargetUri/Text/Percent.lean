import TargetUri.Text.Hex
import TargetUri.Text.Utf8

set_option autoImplicit false

/-!
# Percent tokens

Bytes written so that no character of the result means anything in a URL: an ASCII letter or digit
stands for itself and every other byte is a percent sign and two upper-case hexadecimal digits.

## Main definitions

* `TargetUri.Percent.encode` — the token of a byte sequence.
* `TargetUri.Percent.decode?` — the bytes of a token, for tokens of exactly this form.
-/

namespace TargetUri.Percent

/-- The code of an ASCII letter or digit. -/
def isAlphanumeric (n : Nat) : Bool :=
  (0x30 ≤ n && n ≤ 0x39) || (0x41 ≤ n && n ≤ 0x5A) || (0x61 ≤ n && n ≤ 0x7A)

/-- A percent sign and the two digits of a byte. -/
def triple (b : UInt8) : List Char :=
  ['%', Hex.upperDigit (b.toNat / 16), Hex.upperDigit (b.toNat % 16)]

/-- One byte: an ASCII letter or digit as itself, any other as its triple. -/
def encodeByte (b : UInt8) : List Char :=
  if isAlphanumeric b.toNat then [Char.ofNat b.toNat] else triple b

/-- The token of a byte sequence. -/
def encode (bs : Bytes) : String := String.ofList (bs.flatMap encodeByte)

/-- The bytes of a token. A triple that spells a letter or digit, and any other character, is no
part of a token. -/
def decode? : List Char → Option Bytes
  | [] => some []
  | '%' :: h :: l :: cs => do
    let hi ← Hex.upperValue? h
    let lo ← Hex.upperValue? l
    if isAlphanumeric (hi * 16 + lo) then none
    else return UInt8.ofNat (hi * 16 + lo) :: (← decode? cs)
  | c :: cs =>
    if isAlphanumeric c.toNat then (decode? cs).map (UInt8.ofNat c.toNat :: ·) else none

end TargetUri.Percent
