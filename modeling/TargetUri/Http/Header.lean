import TargetUri.Text.Lowercase
import TargetUri.Text.Utf8

set_option autoImplicit false

/-!
# Header fields

## Main definitions

* `TargetUri.FieldValue` — the value of a header field, decoded or not.
* `TargetUri.HeaderLookup` — a way to find the value of a field by name.
* `TargetUri.HeaderLookup.ofRaw` — look-up in a flat list of names and values.
-/

namespace TargetUri

/-- One character per byte. -/
def decodeHeaderBytes (bytes : Bytes) : String :=
  String.ofList (bytes.map fun b => Char.ofNat b.toNat)

/-- The value of a header field: text with one character per byte, or the bytes themselves. -/
inductive FieldValue where
  /-- a decoded value -/
  | text (value : String)
  /-- a value as it was sent -/
  | bytes (value : Bytes)
deriving DecidableEq, Repr

/-- The text of a value. -/
def FieldValue.toText : FieldValue → String
  | .text value => value
  | .bytes value => decodeHeaderBytes value

/-- A way to find the value of a field by name. -/
abbrev HeaderLookup := String → Option FieldValue

/-- The first value of a name in a list that alternates names and values. Names are compared
without regard to case; a last name without a value is passed over. -/
def rawHeader (name : String) : List String → Option String
  | n :: v :: rest => if Text.lower n = Text.lower name then some v else rawHeader name rest
  | _ => none

/-- Look-up in a list that alternates names and values. -/
def HeaderLookup.ofRaw (raw : List String) : HeaderLookup := fun name =>
  (rawHeader name raw).map .text

end TargetUri
