import TargetUri.Json.Basic
import TargetUri.Net.Address

set_option autoImplicit false

/-!
# Configuration issues

What is wrong with a configuration value, and where in it.

## Main definitions

* `TargetUri.Issue` — a cause and the path of the value at fault.
* `TargetUri.Issue.message` — the wording of a cause.
* `TargetUri.Issue.toJson` — the report of an issue.
-/

namespace TargetUri

/-- A step from a value to one inside it. -/
inductive PathStep where
  /-- the value of a key -/
  | key (name : String)
  /-- an item of a list, counted from zero -/
  | index (n : Nat)
deriving DecidableEq, Repr

/-- What kind of value a configuration asks for. -/
inductive Shape where
  /-- an object -/
  | object
  /-- a list -/
  | array
  /-- a text -/
  | string
  /-- a number -/
  | number
  /-- a truth value -/
  | boolean
deriving DecidableEq, Repr

/-- The name of a kind of value. -/
def Shape.name : Shape → String
  | object => "object"
  | array => "array"
  | string => "string"
  | number => "number"
  | boolean => "boolean"

/-- The name of the kind of value that was found; nothing may have been. -/
def foundName : Option Json → String
  | none => "undefined"
  | some .null => "null"
  | some (.bool _) => "boolean"
  | some (.num _) => "number"
  | some (.str _) => "string"
  | some (.arr _) => "array"
  | some (.obj _) => "object"

/-- The largest whole number below which every whole number is a value of its own in 64-bit binary
floating point. -/
def safeLimit : Int := 9007199254740991

/-- The greatest port. -/
def portLimit : Int := 65535

/-- The levels that a configuration may name, most serious first. -/
def levelNames : List String := ["fatal", "error", "warn", "info", "debug"]

/-- What is wrong with a value. -/
inductive Cause where
  /-- a value of another kind than asked for, by the name of what was found -/
  | wrongShape (expected : Shape) (found : String)
  /-- a number too large to be finite -/
  | infinite (negative : Bool)
  /-- a number with a fractional part -/
  | notWhole
  /-- a whole number above the safe range -/
  | aboveSafe
  /-- a whole number below the safe range -/
  | belowSafe
  /-- a number above the greatest port -/
  | aboveLimit
  /-- a negative number -/
  | belowZero
  /-- a text without characters -/
  | emptyText
  /-- a list without items -/
  | emptyList
  /-- a length below one of something else -/
  | tooShort
  /-- another transport than the one asked for -/
  | wrongTransport (expected : StreamType)
  /-- no level of a configuration -/
  | unknownLevel
  /-- no transport -/
  | unknownTransport
deriving DecidableEq, Repr

/-- A fault of a configuration value. -/
structure Issue where
  /-- where the value at fault is -/
  path : List PathStep
  /-- what is wrong with it -/
  cause : Cause
deriving DecidableEq, Repr

/-- The name of an infinite number. -/
def infinityName (negative : Bool) : String := if negative then "-Infinity" else "Infinity"

/-- A text between double quotation marks. -/
def inQuotes (s : String) : String := "\"" ++ s ++ "\""

/-- The wording of a cause. -/
def Cause.message : Cause → String
  | wrongShape expected found =>
    "Invalid input: expected " ++ expected.name ++ ", received " ++ found
  | infinite negative => "Invalid input: expected number, received " ++ infinityName negative
  | notWhole => "Invalid input: expected int, received number"
  | aboveSafe => "Too big: expected int to be <=" ++ toString safeLimit
  | belowSafe => "Too small: expected int to be >=" ++ toString (-safeLimit)
  | aboveLimit => "Too big: expected number to be <=" ++ toString portLimit
  | belowZero => "Too small: expected number to be >=0"
  | emptyText => "Too small: expected string to have >=1 characters"
  | emptyList => "Too small: expected array to have >=1 items"
  | tooShort => "Too small: expected unknown to be >=1"
  | wrongTransport expected => "Invalid input: expected " ++ inQuotes expected.name
  | unknownLevel =>
    "Invalid option: expected one of " ++ String.intercalate "|" (levelNames.map inQuotes)
  | unknownTransport => "Invalid discriminator value. Expected 'tcp' | 'tls' | 'unix'"

/-- The note that goes with a number out of the safe range. -/
def safeNote : String := "Integers must be within the safe integer range."

/-- The particulars of a cause: its code, and the bounds or choices that it is about. -/
def Cause.members : Cause → List (String × Json)
  | wrongShape expected _ => [("expected", .str expected.name), ("code", .str "invalid_type")]
  | infinite negative =>
    [("expected", .str "number"), ("code", .str "invalid_type"),
      ("received", .str (infinityName negative))]
  | notWhole =>
    [("expected", .str "int"), ("format", .str "safeint"), ("code", .str "invalid_type")]
  | aboveSafe =>
    [("code", .str "too_big"), ("maximum", .int safeLimit), ("note", .str safeNote),
      ("origin", .str "int"), ("inclusive", .bool true)]
  | belowSafe =>
    [("code", .str "too_small"), ("minimum", .int (-safeLimit)), ("note", .str safeNote),
      ("origin", .str "int"), ("inclusive", .bool true)]
  | aboveLimit =>
    [("origin", .str "number"), ("code", .str "too_big"), ("maximum", .int portLimit),
      ("inclusive", .bool true)]
  | belowZero =>
    [("origin", .str "number"), ("code", .str "too_small"), ("minimum", .int 0),
      ("inclusive", .bool true)]
  | emptyText =>
    [("origin", .str "string"), ("code", .str "too_small"), ("minimum", .int 1),
      ("inclusive", .bool true)]
  | emptyList =>
    [("origin", .str "array"), ("code", .str "too_small"), ("minimum", .int 1),
      ("inclusive", .bool true)]
  | tooShort =>
    [("origin", .str "unknown"), ("code", .str "too_small"), ("minimum", .int 1),
      ("inclusive", .bool true)]
  | wrongTransport expected =>
    [("code", .str "invalid_value"), ("values", .arr [.str expected.name])]
  | unknownLevel =>
    [("code", .str "invalid_value"), ("values", .arr (levelNames.map fun name => .str (.text name)))]
  | unknownTransport =>
    [("code", .str "invalid_union"), ("errors", .arr []),
      ("note", .str "No matching discriminator"), ("discriminator", .str "transport"),
      ("options", .arr [.str "tcp", .str "tls", .str "unix"])]

/-- A step of a path as JSON. -/
def PathStep.toJson : PathStep → Json
  | .key name => .str name
  | .index n => .nat n

/-- The report of an issue: its particulars, its path and its wording. -/
def Issue.toJson (i : Issue) : Json :=
  .obj (i.cause.members ++
    [("path", .arr (i.path.map PathStep.toJson)), ("message", .str i.cause.message)])

end TargetUri
