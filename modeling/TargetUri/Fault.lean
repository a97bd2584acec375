import TargetUri.Config.Issue
import TargetUri.Machine.Files

set_option autoImplicit false

/-!
# Faults

Everything that can go wrong, by cause, with the wording and the report of each.

## Main definitions

* `TargetUri.Fault` — what went wrong.
* `TargetUri.Fault.message` — its wording.
* `TargetUri.Fault.code?` — its code, for the faults that are reported to a client.
* `TargetUri.Fault.toJson` — its report.
-/

namespace TargetUri

/-- What is wrong with a resource number. -/
inductive BadResource where
  /-- no resource has it -/
  | notFound
  /-- the resource that has it is of another kind than asked for -/
  | wrongKind
deriving DecidableEq, Repr

/-- The name of a reason. -/
def BadResource.name : BadResource → String
  | notFound => "not-found"
  | wrongKind => "wrong-kind"

/-- What went wrong. -/
inductive Fault where
  /-- a fault with a code, wording and details of its own -/
  | coded (code message : String) (details : Option Json)
  /-- a resource number that cannot be used, and what was asked for -/
  | badResource (rid : Int) (reason : BadResource) (expected : Option String)
  /-- a request on a connection of which nothing is known -/
  | unknownConnection (details : Option Json)
  /-- a listener that no server stands behind -/
  | unsupportedListener (rid : Int) (name : String)
  /-- a stream that no socket stands behind -/
  | unsupportedStream (rid : Int) (name : String)
  /-- a server that is asked for its address and does not listen -/
  | notListening
  /-- a socket that is asked for the address of an end and was closed before it could be read -/
  | lostAddress (side : String)
  /-- a fault of a route, in its own words -/
  | route (message : String)
  /-- a failed operation of the machine -/
  | system (error : SystemError)
  /-- a text that is not JSON -/
  | malformedText
  /-- a configuration with faults -/
  | invalidConfig (issues : List Issue)

namespace Fault

/-- The wording of a fault; system errors and faulty files are known by code and issues alone. -/
def message : Fault → String
  | coded _ message _ => message
  | badResource rid .notFound _ => "Bad resource ID: " ++ toString rid
  | badResource rid .wrongKind expected =>
    "Resource " ++ toString rid ++ " is not a " ++ expected.getD "compatible resource"
  | unknownConnection _ => "Request arrived on a connection without computed properties"
  | unsupportedListener rid _ => "Listener " ++ toString rid ++ " is not backed by a Node server"
  | unsupportedStream rid _ => "Stream " ++ toString rid ++ " is not backed by a Node socket"
  | notListening => "Server is not listening"
  | lostAddress side => "Socket has no " ++ side ++ " address, it is already closed"
  | route message => message
  | system _ => ""
  | malformedText => ""
  | invalidConfig _ => ""

/-- The code of a fault that is reported to a client. -/
def code? : Fault → Option String
  | coded code _ _ => some code
  | badResource .. => some "BAD_RESOURCE"
  | unknownConnection _ => some "CONNECTION_UNKNOWN"
  | unsupportedListener .. => some "UNSUPPORTED_LISTENER"
  | unsupportedStream .. => some "UNSUPPORTED_STREAM"
  | _ => none

/-- The particulars that are reported with a code. -/
def details : Fault → Option Json
  | coded _ _ details => details
  | badResource rid reason expected =>
    some (.obj ([("rid", .int rid), ("reason", .str reason.name)] ++
      Json.optional "expected" (expected.map .str)))
  | unknownConnection details => details
  | unsupportedListener rid name => some (.obj [("rid", .int rid), ("name", .str name)])
  | unsupportedStream rid name => some (.obj [("rid", .int rid), ("name", .str name)])
  | _ => none

/-- The kind of a fault, as log records name it. -/
def kind : Fault → String
  | coded .. => "RequestContextError"
  | badResource .. => "BadResourceError"
  | unknownConnection _ => "UnknownConnectionError"
  | unsupportedListener .. => "RequestContextError"
  | unsupportedStream .. => "RequestContextError"
  | _ => "Error"

/-- The report of a code, a wording and perhaps details. -/
def report (code message : String) (details : Option Json) : Json :=
  .obj [("error", .obj ([("errorCode", .str code), ("message", .str message)] ++
    Json.optional "details" details))]

/-- The code of a fault that is none of a client's business. -/
def internalCode : String := "INTERNAL_ERROR"

/-- The wording of a fault that is none of a client's business. -/
def internalMessage : String := "Internal server error"

/-- The report of a fault to a client. A fault without a code is reported as internal. -/
def toJson (f : Fault) : Json :=
  match f.code? with
  | some code => report code f.message f.details
  | none => report internalCode internalMessage none

end Fault

end TargetUri
