import TargetUri.Json.Decimal
import TargetUri.Text.Wide

set_option autoImplicit false

/-!
# JSON values

## Main definitions

* `TargetUri.Json` — a JSON value. The members of an object keep their order and may repeat a key.
* `TargetUri.Json.lookup` — the value of a key: of repeated keys the last one counts.

## Design

A text may hold half of a character without the other half, as an escape can spell one. Keys are
kept as texts: they are only ever compared with names that hold no such half.
-/

namespace TargetUri

/-- A JSON value. -/
inductive Json where
  /-- the value `null` -/
  | null
  /-- a truth value -/
  | bool (value : Bool)
  /-- a number, as spelled -/
  | num (value : Decimal)
  /-- a text -/
  | str (value : WideString)
  /-- a list of values -/
  | arr (items : List Json)
  /-- a list of named values -/
  | obj (members : List (String × Json))
deriving Inhabited

namespace Json

/-- The whole number `n`. -/
def int (n : Int) : Json := .num (.ofInt n)

/-- The natural number `n`. -/
def nat (n : Nat) : Json := .int n

/-- The value of a key among members. Of repeated keys the last one counts. -/
def lookup (key : String) : List (String × Json) → Option Json
  | [] => none
  | (k, v) :: rest =>
    match lookup key rest with
    | some w => some w
    | none => if k = key then some v else none

/-- The value of a key of an object; other values have no keys. -/
def member? (key : String) : Json → Option Json
  | .obj members => lookup key members
  | _ => none

/-- A member that is left out when it has no value. -/
def optional (key : String) : Option Json → List (String × Json)
  | none => []
  | some v => [(key, v)]

/-- A text, or `null` for none. -/
def orNull : Option Json → Json
  | none => .null
  | some v => v

/-! ## Looking up keys -/

/-- Where there are no members no key has a value. -/
theorem lookup_nil (key : String) : lookup key [] = none := rfl

/-- The value of a key is that of the members that come later, or else of the first one. -/
theorem lookup_cons (key k : String) (v : Json) (ms : List (String × Json)) :
    lookup key ((k, v) :: ms) = (lookup key ms).or (if k = key then some v else none) := by
  rw [lookup]
  cases lookup key ms <;> rfl

/-- The value of a key is that of the later members, or else of the earlier ones. -/
theorem lookup_append (key : String) (ms ns : List (String × Json)) :
    lookup key (ms ++ ns) = (lookup key ns).or (lookup key ms) := by
  induction ms with
  | nil => rw [List.nil_append, lookup, Option.or_none]
  | cons m ms ih => rw [List.cons_append, lookup_cons, lookup_cons, ih, Option.or_assoc]

/-- The value of a key that is left out when it has no value. -/
theorem lookup_optional (key k : String) (v : Option Json) :
    lookup key (optional k v) = if k = key then v else none := by
  cases v <;> simp [optional, lookup]

end Json

end TargetUri
