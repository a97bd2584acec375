import TargetUri.Json.Read

set_option autoImplicit false

/-!
# JSON values as numbers

The number that a value counts as where it is compared with one. A text counts as the number that it
spells, in a wider grammar than that of JSON: with white space around it, leading zeros, a point at
either end of the digits, a plus sign, and whole numbers in base two, eight and sixteen. A list
counts as the text that its items make when they are joined by commas.

## Main definitions

* `TargetUri.Json.textNumber?` — the number that a text spells, or nothing when it spells none.
* `TargetUri.Json.number?` — the number that a value counts as.

## Design

Of lists only those of at most one item count as a number, as no number is spelled with a comma, and
the item is then looked at in place of its text: the text of a number spells that number again, and
those of a truth value and of an object spell none. An object may have a member that says how its
text is made; that no such member is a function, and the comparison then fails, is not modelled.
-/

namespace TargetUri

/-- A number past the largest finite value. -/
def Decimal.infinite (negative : Bool) : Decimal := ⟨negative, 1, 400⟩

namespace Json

/-- Whether a character is white space or ends a line, also outside of ASCII. -/
def isWhite (c : Char) : Bool :=
  let n := c.toNat
  (0x09 ≤ n && n ≤ 0x0D) || (0x2000 ≤ n && n ≤ 0x200A) ||
    n ∈ [0x20, 0xA0, 0x1680, 0x2028, 0x2029, 0x202F, 0x205F, 0x3000, 0xFEFF]

/-- The characters without the white space at their ends. -/
def trimWhite (cs : List Char) : List Char :=
  ((cs.dropWhile isWhite).reverse.dropWhile isWhite).reverse

/-- The whole number that digits of a base spell. -/
def radixNumber? (base : Nat) (cs : List Char) : Option Decimal := do
  let ds ← cs.mapM Hex.value?
  if ds ≠ [] ∧ ∀ d ∈ ds, d < base then
    return .ofInt (ds.foldl (fun n d => n * base + d) 0 : Nat)
  else none

/-- The base that is named by a letter after a zero. -/
def radix? : Char → Option Nat
  | 'b' | 'B' => some 2
  | 'o' | 'O' => some 8
  | 'x' | 'X' => some 16
  | _ => none

/-- A number in base ten or the word for infinity, the sign apart. -/
def textMagnitude? (negative : Bool) (cs : List Char) : Option Decimal :=
  let (whole, ahead) := digitsAhead cs
  let (fraction, ahead) :=
    match ahead with
    | '.' :: ahead => digitsAhead ahead
    | ahead => ([], ahead)
  if cs = "Infinity".toList then some (.infinite negative)
  else if whole ++ fraction = [] then none
  else
    match readExponent ahead with
    | some (power, []) => some ⟨negative, digitsValue (whole ++ fraction), power - fraction.length⟩
    | _ => none

/-- The number that a text spells, or nothing when it spells none. A blank text counts as zero. -/
def textNumber? (s : String) : Option Decimal :=
  match trimWhite s.toList with
  | [] => some (.ofInt 0)
  | '+' :: cs => textMagnitude? false cs
  | '-' :: cs => textMagnitude? true cs
  | '0' :: r :: cs =>
    match radix? r with
    | some base => radixNumber? base cs
    | none => textMagnitude? false ('0' :: r :: cs)
  | cs => textMagnitude? false cs

/-- The number that a value counts as. -/
def number? : Json → Option Decimal
  | .null => some (.ofInt 0)
  | .bool b => some (.ofInt b.toNat)
  | .num d => some d
  | .str (.text s) => textNumber? s
  | .str (.ragged _) => none
  | .arr [] => some (.ofInt 0)
  | .arr [.bool _] => none
  | .arr [v] => number? v
  | .arr _ => none
  | .obj _ => none

/-- A list of two items or more counts as no number. -/
theorem number?_arr_cons_cons (v w : Json) (vs : List Json) :
    number? (.arr (v :: w :: vs)) = none := by
  cases v <;> rfl

end Json

end TargetUri
