set_option autoImplicit false

/-!
# Decimal numbers

A number as a text spells it, `± digits · 10 ^ exponent`, and the number that a 64-bit binary
floating-point value keeps of it. A reader of numbers takes the second: two spellings that round to
one value are one number, a spelling past the largest value is infinite, and a spelling close
enough to a whole number is whole. A zero has a sign.

## Main definitions

* `TargetUri.Decimal` — a number as spelled.
* `TargetUri.Decimal.round` — what the binary value keeps of it.
* `TargetUri.Decimal.render` — a spelling, exact for every number but a zero with a minus sign.
* `TargetUri.Decimal.settled` — the number that is read again of that spelling.

## Design

Rounding is done on the quotient of two natural numbers, so no step of it is itself rounded. Only
what a caller asks of the value is kept: whether it is infinite, whether it is whole, and if so
which whole number it is. A value that is not whole lies on the same side of one as its spelling.
-/

namespace TargetUri

/-- The number `digits · 10 ^ exponent` with a sign. -/
structure Decimal where
  /-- whether it has a minus sign -/
  negative : Bool
  /-- the digits -/
  digits : Nat
  /-- the power of ten they are multiplied by -/
  exponent : Int
deriving DecidableEq, Repr, Inhabited

namespace Decimal

/-- A whole number. -/
def ofInt (n : Int) : Decimal := ⟨n < 0, n.natAbs, 0⟩

/-- Zero with a minus sign. -/
def minusZero : Decimal := ⟨true, 0, 0⟩

/-- The number with a plain zero in place of one with a minus sign. -/
def settled (d : Decimal) : Decimal := { d with negative := d.negative && d.digits != 0 }

/-- The text of a number: a whole number in plain digits, any other with its power of ten. The sign
of a zero is not written. -/
def render (d : Decimal) : String :=
  (if d.settled.negative then "-" else "") ++ toString d.digits ++
    (if d.exponent = 0 then "" else "e" ++ toString d.exponent)

/-! ## Rounding to a binary value -/

/-- What a 64-bit binary value keeps of a number. -/
inductive Rounded where
  /-- a whole number -/
  | whole (n : Int)
  /-- zero with a minus sign -/
  | minusZero
  /-- a finite number with a fractional part -/
  | fractional
  /-- a number past the largest finite value -/
  | infinite (negative : Bool)
deriving DecidableEq, Repr

/-- A whole number with a sign. -/
def Rounded.signed (negative : Bool) (n : Nat) : Rounded :=
  if negative then if n = 0 then .minusZero else .whole (-n) else .whole n

/-- A base to the power of an exponent; a negative exponent counts as zero. -/
def power (base : Nat) (e : Int) : Nat := Nat.pow base e.toNat

/-- The greatest `k` with `2 ^ k ≤ num / den`, for positive `num` and `den`. -/
def binaryExponent (num den : Nat) : Int :=
  let k : Int := (num.log2 : Int) - den.log2
  let reaches : Bool := den * power 2 k ≤ num * power 2 (-k)
  if reaches then k else k - 1

/-- The binary value nearest to `num / den`, as `m` and `e` with value `m · 2 ^ e`: 53 bits, fewer
below the least normal value, and of two equally near values the even one. -/
def nearest (num den : Nat) : Nat × Int :=
  let e := max (binaryExponent num den - 52) (-1074)
  let n := num * power 2 (-e)
  let d := den * power 2 e
  let q := n / d
  let r := n % d
  (if d < 2 * r || (2 * r == d && q % 2 == 1) then q + 1 else q, e)

/-- What is kept of the positive number `num / den`. -/
def roundRatio (negative : Bool) (num den : Nat) : Rounded :=
  let v := nearest num den
  let n := v.1 * power 2 v.2
  let d := power 2 (-v.2)
  if power 2 1024 ≤ n then .infinite negative
  else if n % d = 0 then .signed negative (n / d)
  else .fractional

/-- What a 64-bit binary value keeps of a number. A number of more than four hundred digits before
the point is infinite and one that starts more than four hundred digits after it is zero, so the
power of ten of any other is small. -/
def round (d : Decimal) : Rounded :=
  let magnitude : Int := (Nat.toDigits 10 d.digits).length + d.exponent
  if d.digits = 0 then .signed d.negative 0
  else if 400 < magnitude then .infinite d.negative
  else if magnitude < -400 then .signed d.negative 0
  else roundRatio d.negative (d.digits * power 10 d.exponent) (power 10 (-d.exponent))

/-- Whether the binary value of a number is below one. -/
def isBelowOne (d : Decimal) : Bool :=
  match d.round with
  | .whole n => n < 1
  | .minusZero => true
  | .infinite negative => negative
  | .fractional => d.negative || d.digits * power 10 d.exponent < power 10 (-d.exponent)

end Decimal

end TargetUri
