import TargetUri.Json.Basic

set_option autoImplicit false

/-!
# Log records

## Main definitions

* `TargetUri.Level` — how serious a record is.
* `TargetUri.Record` — a record: a level, named fields and a message.
* `TargetUri.Logger` — a threshold and the fields that every record carries.
* `TargetUri.Logger.write` — the records that a logger lets through of one that is offered to it.
-/

namespace TargetUri

/-- How serious a record is, least first. -/
inductive Level where
  /-- every step -/
  | trace
  /-- what helps to find a fault -/
  | debug
  /-- normal events -/
  | info
  /-- requests that cannot be served -/
  | warn
  /-- faults -/
  | error
  /-- faults that end the program -/
  | fatal
deriving DecidableEq, Repr, Inhabited

namespace Level

/-- The levels, least serious first. -/
def all : List Level := [trace, debug, info, warn, error, fatal]

/-- The name of a level. -/
def name : Level → String
  | trace => "trace"
  | debug => "debug"
  | info => "info"
  | warn => "warn"
  | error => "error"
  | fatal => "fatal"

/-- The level of a name. -/
def ofName? (s : String) : Option Level := all.find? fun l => l.name == s

/-- The number of a level in a record. -/
def number : Level → Nat
  | trace => 10
  | debug => 20
  | info => 30
  | warn => 40
  | error => 50
  | fatal => 60

end Level

/-- A log record. -/
structure Record where
  /-- how serious it is -/
  level : Level
  /-- the fields it carries, in order -/
  fields : List (String × Json)
  /-- what happened -/
  message : String

/-- A record as JSON: level, fields, message. -/
def Record.toJson (r : Record) : Json :=
  .obj (("level", .nat r.level.number) :: r.fields ++ [("msg", .str r.message)])

/-- A threshold and the fields that every record carries. -/
structure Logger where
  /-- records below this level are dropped -/
  level : Level
  /-- the fields of every record -/
  bindings : List (String × Json)

namespace Logger

/-- The name of the program in its records. -/
def programName : String := "request-authority"

/-- A logger whose records carry some fields and the program's name. -/
def create (level : Level) (bindings : List (String × Json)) : Logger :=
  ⟨level, bindings ++ [("name", .str programName)]⟩

/-- Whether records of a level are written. -/
def enables (l : Logger) (level : Level) : Bool := l.level.number ≤ level.number

/-- The levels that are written. -/
def enabled (l : Logger) : List Level := Level.all.filter l.enables

/-- A logger whose records carry more fields. -/
def child (l : Logger) (fields : List (String × Json)) : Logger :=
  { l with bindings := l.bindings ++ fields }

/-- The record that is written of one that is offered: none when its level is below the
threshold. -/
def write (l : Logger) (level : Level) (fields : List (String × Json)) (message : String) :
    List Record :=
  if l.enables level then [⟨level, l.bindings ++ fields, message⟩] else []

end Logger

end TargetUri
