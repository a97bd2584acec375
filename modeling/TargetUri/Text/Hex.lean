set_option autoImplicit false

/-!
# Hexadecimal digits

The digits of base sixteen, which are written in one case and read in either. Main statements: a
digit that is written reads back as its value, in both cases.

## Main definitions

* `TargetUri.Hex.lowerDigit`, `TargetUri.Hex.upperDigit` — the digit of a value.
* `TargetUri.Hex.value?` — the value of a digit of either case.
* `TargetUri.Hex.upperValue?` — the value of a digit, if it is one that `upperDigit` writes.
-/

namespace TargetUri.Hex

/-- The lower-case digit of a value below sixteen. -/
def lowerDigit (n : Nat) : Char := Char.ofNat (if n < 10 then 0x30 + n else 0x57 + n)

/-- The upper-case digit of a value below sixteen. -/
def upperDigit (n : Nat) : Char := Char.ofNat (if n < 10 then 0x30 + n else 0x37 + n)

/-- The value of a digit that is no small letter. -/
def upperValue? (c : Char) : Option Nat :=
  let n := c.toNat
  if 0x30 ≤ n && n ≤ 0x39 then some (n - 0x30)
  else if 0x41 ≤ n && n ≤ 0x46 then some (n - 0x37)
  else none

/-- The value of a digit of either case. -/
def value? (c : Char) : Option Nat :=
  if 0x61 ≤ c.toNat && c.toNat ≤ 0x66 then some (c.toNat - 0x57) else upperValue? c

/-- **An upper-case digit reads back**, also where small letters are no digits. -/
theorem upperValue?_upperDigit {n : Nat} (h : n < 16) : upperValue? (upperDigit n) = some n := by
  have all : ∀ m : Fin 16, upperValue? (upperDigit m) = some m.val := by decide
  exact all ⟨n, h⟩

/-- **A lower-case digit reads back.** -/
theorem value?_lowerDigit {n : Nat} (h : n < 16) : value? (lowerDigit n) = some n := by
  have all : ∀ m : Fin 16, value? (lowerDigit m) = some m.val := by decide
  exact all ⟨n, h⟩

end TargetUri.Hex
