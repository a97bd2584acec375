import TargetUri.Fault
import TargetUri.Http.Context
import TargetUri.Log
import TargetUri.Url.Basic

set_option autoImplicit false

/-!
# The application

How a request is answered and what is logged of it.

## Main definitions

* `TargetUri.Request`, `TargetUri.Response` — a request as it reaches the application, and the
  answer to it.
* `TargetUri.App` — a logger and routes.
* `TargetUri.App.requestContext` — the context of a request, on a known connection.
* `TargetUri.Exchange`, `TargetUri.Step` — what stands of a request that is being answered, and
  something that is done to it.
* `TargetUri.App.caught` — how the failure of a step is answered.
* `TargetUri.App.logAccess`, `TargetUri.App.attachContext`, `TargetUri.App.route` — the steps, each
  but the last with what comes after it.
* `TargetUri.App.answer` — the answer to a request, and the records that are written.

## Design

The steps are nested: the access log goes around the context, and that around the route. A step that
fails is answered where it was called, and whoever called it goes on. So whatever becomes of the
steps inside, the access log gets an answer, and writes its record after those of a fault.
-/

namespace TargetUri

/-- A request as it reaches the application. -/
structure Request where
  /-- its method -/
  method : String
  /-- the URL by which it is routed -/
  url : Url
  /-- the target of its request line, if there is one -/
  target : Option String
  /-- its header fields: names and values by turns -/
  rawHeaders : List String
  /-- the IP address of the socket that it arrived on, if it can be read -/
  remoteAddress : Option String
  /-- how long it took to answer -/
  elapsedMs : Nat

/-- The answer to a request. -/
structure Response where
  /-- the status code -/
  status : Nat
  /-- the body, if there is one -/
  body : Option Json

/-- An answer as it is sent: without a body, if only its head was asked for. -/
def Response.sentFor (method : String) (o : Response) : Response :=
  if method = "HEAD" then { o with body := none } else o

/-- How the requests for a path are answered, in a context, if there is one. -/
abbrev Handler := Option RequestContext → Except Fault Json

/-- The application: where it logs, and its routes by path. -/
structure App where
  /-- where it logs -/
  logger : Logger
  /-- its routes -/
  routes : List (String × Handler)

namespace App

/-- The path of the diagnostic route. -/
def contextPath : String := "/context"

/-- The report of a context, or of none. -/
def contextReport : Option RequestContext → Json
  | some c => c.toJson
  | none => .obj (["url", "scheme", "authority", "host", "listen", "connection"].map (·, .null))

/-- The diagnostic route, which reports the context of the request itself. -/
def contextRoute : String × Handler := (contextPath, fun c => .ok (contextReport c))

/-- The application with the diagnostic route alone. -/
def standard (logger : Logger) : App := ⟨logger, [contextRoute]⟩

/-! ## Routing -/

/-- A character that has a meaning in a URL and is not decoded in a path, or the percent sign. -/
def isReserved (c : Char) : Bool :=
  c ∈ [';', '/', '?', ':', '@', '&', '=', '+', '$', ',', '#', '%']

/-- A path in which percent triples of ASCII characters stand for those characters, unless they
have a meaning in a URL. Other triples are left alone: no route holds them. -/
def decodePath : List Char → List Char
  | [] => []
  | '%' :: h :: l :: cs =>
    match Hex.value? h, Hex.value? l with
    | some hi, some lo =>
      let c := Char.ofNat (hi * 16 + lo)
      if hi < 8 ∧ !isReserved c then c :: decodePath cs else '%' :: h :: l :: decodePath cs
    | _, _ => '%' :: decodePath (h :: l :: cs)
  | c :: cs => c :: decodePath cs

/-- The methods that routes answer. A request for the head of an answer is routed like one for the
answer. -/
def isRouted (method : String) : Bool := method == "GET" || method == "HEAD"

/-- The route of a request. -/
def route? (app : App) (r : Request) : Option Handler :=
  if isRouted r.method then app.routes.lookup (String.ofList (decodePath r.url.path.toList))
  else none

/-! ## Faults -/

/-- The report that nothing is found at a path. -/
def notFound : Json := Fault.report "NOT_FOUND" "Not found" none

/-- A fault as a field of a record. -/
def faultField (f : Fault) : String × Json :=
  ("err", .obj [("type", .str f.kind), ("message", .str f.message)])

/-- The records of a fault. One that is reported to the client is a warning, any other an
error. -/
def faultRecords (logger : Logger) (f : Fault) : List Record :=
  match f.code? with
  | some _ => logger.write .warn [faultField f] f.message
  | none => logger.write .error [faultField f] "Unhandled error"

/-- The fault of a request on a connection of which nothing is known. -/
def unknownConnection (r : Request) : Fault :=
  .unknownConnection (some (.obj [("remoteAddress", .orNull (r.remoteAddress.map .str))]))

/-! ## Answers -/

/-- The record of a request. Without a context its URL is the one it was routed by. -/
def accessFields (r : Request) (status : Nat) (c : Option RequestContext) :
    List (String × Json) :=
  [("method", .str r.method), ("url", .str ((c.map (·.url)).getD r.url.href)),
    ("status", .nat status), ("authority", .orNull ((c.bind (·.authority)).map .str))] ++
    Json.optional "transport" (c.map fun c => .str c.connection.streamType.name) ++
    Json.optional "peerAddress" (c.map fun c => .str c.connection.peerAddress) ++
    Json.optional "peerPort" ((c.bind (·.connection.peerPort)).map .nat) ++
    [("durationMs", .nat r.elapsedMs)]

/-- The message of the record of a request. -/
def accessMessage : String := "request"

/-- The context of a request on a known connection. A request without a target is for the root. -/
def contextOf (entry : ConnectionEntry) (r : Request) : RequestContext :=
  RequestContext.create entry (RequestTarget.parse (r.target.getD "/")) (.ofRaw r.rawHeaders)

/-- The context of a request on a connection, which is known or not. -/
def requestContext (entry : Option ConnectionEntry) (r : Request) : Except Fault RequestContext :=
  match entry with
  | none => .error (unknownConnection r)
  | some e => .ok (contextOf e r)

/-- The status and body of a fault. -/
def faultResponse (f : Fault) : Response := ⟨500, some f.toJson⟩

end App

/-! ## Steps -/

/-- What stands of a request that is being answered. -/
structure Exchange where
  /-- its context, once it has one -/
  context : Option RequestContext
  /-- the answer so far -/
  response : Response
  /-- the records written so far -/
  log : List Record

/-- A request that nothing has been done about. -/
def Exchange.fresh : Exchange := ⟨none, ⟨200, none⟩, []⟩

/-- Something that is done about a request, and may fail; what it has done before stays. -/
abbrev Step := Exchange → Except Fault Unit × Exchange

namespace App

/-- **How a failure is answered**: where the step was called, with the report of the fault and its
records. Whoever called the step goes on. -/
def caught (app : App) (step : Step) (x : Exchange) : Exchange :=
  match step x with
  | (.ok (), x) => x
  | (.error f, x) =>
    { x with response := faultResponse f, log := x.log ++ faultRecords app.logger f }

/-- The access log: a record of the request, after what comes next. -/
def logAccess (app : App) (r : Request) (next : Exchange → Exchange) : Step := fun x =>
  let x := next x
  (.ok (), { x with
    log := x.log ++
      app.logger.write .info (accessFields r x.response.status x.context) accessMessage })

/-- The context of a request, for what comes next. On a connection of which nothing is known the
request fails. -/
def attachContext (entry : Option ConnectionEntry) (r : Request) (next : Exchange → Exchange) :
    Step := fun x =>
  match requestContext entry r with
  | .error f => (.error f, x)
  | .ok c => (.ok (), next { x with context := some c })

/-- The route of a request, or the report that nothing is found. -/
def route (app : App) (r : Request) : Step := fun x =>
  match app.route? r with
  | none => (.ok (), { x with response := ⟨404, some notFound⟩ })
  | some handler =>
    match handler x.context with
    | .ok body => (.ok (), { x with response := ⟨200, some body⟩ })
    | .error f => (.error f, x)

/-- What becomes of a request on a connection, known or not: the access log goes around the context,
and that around the route. -/
def exchange (app : App) (entry : Option ConnectionEntry) (r : Request) : Exchange :=
  app.caught (app.logAccess r (app.caught (attachContext entry r (app.caught (app.route r))))) .fresh

/-- **The answer to a request** on a connection, known or not, and the records that are written. A
request for the head of an answer is answered without a body. -/
def answer (app : App) (entry : Option ConnectionEntry) (r : Request) : Response × List Record :=
  let x := app.exchange entry r
  (x.response.sentFor r.method, x.log)

/-- The answer of the route of a request in a context, and the records of a fault. -/
def respond (app : App) (r : Request) (c : RequestContext) : Response × List Record :=
  let x := app.caught (app.route r) { Exchange.fresh with context := some c }
  (x.response, x.log)

end App

end TargetUri
