import TargetUri.App

set_option autoImplicit false

/-!
# The access log

Each request that is dispatched to an application leaves exactly one record of the level `info` with
the message `request`, whatever becomes of it: the record of a request on an unknown connection, of
one that no route answers and of one whose route fails is written like any other. The record tells
the status of the answer that is returned and what is known of the request.

## Main definitions

* `TargetUri.Dispatch` — a request, and what is known of the connection that it arrived on.
* `TargetUri.App.dispatchAll` — the answers to requests in a row, and the records written.
* `TargetUri.Dispatch.LoggedAs` — a record that agrees with the answer to a request.

## Main results

* `TargetUri.App.filter_isAccess_answer` — one request leaves one line.
* `TargetUri.App.filter_isAccess_dispatchAll` — requests in a row leave a line each, in order.
* `TargetUri.App.accessLog_agrees` — the lines agree with the requests and the answers.

## Design

Faults are logged as well, but as warnings or errors, so their records do not count as lines of the
access log, even when a fault has the same message.
-/

namespace TargetUri

/-! ## Runs -/

/-- A request that is dispatched to an application, and what is known of its connection. -/
structure Dispatch where
  /-- what is known of the connection, if anything is -/
  entry : Option ConnectionEntry
  /-- the request -/
  request : Request

/-- Whether a record is a line of the access log. -/
def Record.isAccess (r : Record) : Bool := r.level == .info && r.message == App.accessMessage

/-- The context of a request that is dispatched, or why it has none. -/
def Dispatch.context (d : Dispatch) : Except Fault RequestContext :=
  App.requestContext d.entry d.request

namespace App

/-- The answers to requests dispatched one after the other, and the records written. -/
def dispatchAll (app : App) : List Dispatch → List Response × List Record
  | [] => ([], [])
  | d :: ds =>
    let first := app.answer d.entry d.request
    let others := dispatchAll app ds
    (first.1 :: others.1, first.2 ++ others.2)

/-- The answer to a request that is dispatched. -/
def responseTo (app : App) (d : Dispatch) : Response := (app.answer d.entry d.request).1

/-- The line that a request leaves in the access log. -/
def accessLine (app : App) (d : Dispatch) : Record :=
  ⟨.info, app.logger.bindings ++
    accessFields d.request (app.responseTo d).status d.context.toOption, accessMessage⟩

variable {app : App}

/-! ## One request -/

/-- The record of a request is a line of the access log, where records of its level are written. -/
theorem filter_isAccess_write {logger : Logger} (h : logger.enables .info)
    (fields : List (String × Json)) :
    (logger.write .info fields accessMessage).filter Record.isAccess =
      [⟨.info, logger.bindings ++ fields, accessMessage⟩] := by
  rw [Logger.write, if_pos h]
  exact List.filter_cons_of_pos rfl

/-- A record of another level is no line of the access log. -/
theorem filter_isAccess_write_of_ne {level : Level} (h : level ≠ .info) (logger : Logger)
    (fields : List (String × Json)) (message : String) :
    (logger.write level fields message).filter Record.isAccess = [] := by
  unfold Logger.write
  split
  · exact List.filter_cons_of_neg (by simp [Record.isAccess, h])
  · rfl

/-- The records of a fault are no lines of the access log. -/
theorem filter_isAccess_faultRecords (logger : Logger) (f : Fault) :
    (faultRecords logger f).filter Record.isAccess = [] := by
  unfold faultRecords
  split
  · exact filter_isAccess_write_of_ne Level.noConfusion logger _ _
  · exact filter_isAccess_write_of_ne Level.noConfusion logger _ _

/-- What a route leaves: the context as it was, an answer, and records that are no lines of the
access log. -/
theorem caught_route (r : Request) (x : Exchange) :
    (app.caught (app.route r) x).context = x.context ∧
      (app.caught (app.route r) x).log.filter Record.isAccess =
        x.log.filter Record.isAccess := by
  unfold caught route
  cases app.route? r with
  | none => exact ⟨rfl, rfl⟩
  | some handler =>
    dsimp only
    cases handler x.context with
    | ok body => exact ⟨rfl, rfl⟩
    | error f =>
      refine ⟨rfl, ?_⟩
      dsimp only
      rw [List.filter_append, filter_isAccess_faultRecords, List.append_nil]

/-- What becomes of a request that has a context: the route answers, and the record of the request
is written after what the route has left. -/
theorem exchange_of_ok {entry : Option ConnectionEntry} {r : Request} {c : RequestContext}
    (h : requestContext entry r = .ok c) :
    app.exchange entry r = ⟨some c, (app.respond r c).1, (app.respond r c).2 ++
      app.logger.write .info (accessFields r (app.respond r c).1.status (some c))
        accessMessage⟩ := by
  have hcontext := (app.caught_route r { Exchange.fresh with context := some c }).1
  have hattach : app.caught (attachContext entry r (app.caught (app.route r))) .fresh =
      app.caught (app.route r) { Exchange.fresh with context := some c } := by
    rw [caught, attachContext, h]
  simp only [exchange, caught.eq_1 app (app.logAccess r _), logAccess, hattach, hcontext, respond]

/-- What becomes of a request that has no context: the fault is reported, and the record of the
request is written after those of the fault. -/
theorem exchange_of_error {entry : Option ConnectionEntry} {r : Request} {f : Fault}
    (h : requestContext entry r = .error f) :
    app.exchange entry r = ⟨none, faultResponse f, faultRecords app.logger f ++
      app.logger.write .info (accessFields r (faultResponse f).status none) accessMessage⟩ := by
  have hattach : app.caught (attachContext entry r (app.caught (app.route r))) .fresh =
      ⟨none, faultResponse f, faultRecords app.logger f⟩ := by
    rw [caught, attachContext, h]
    rfl
  simp only [exchange, caught.eq_1 app (app.logAccess r _), logAccess, hattach]

/-- An answer is sent with its status, with or without its body. -/
theorem status_sentFor (method : String) (o : Response) : (o.sentFor method).status = o.status := by
  unfold Response.sentFor
  split <;> rfl

/-- **One request leaves one line**, with the status of the answer that is returned. -/
theorem filter_isAccess_answer (h : app.logger.enables .info) (d : Dispatch) :
    (app.answer d.entry d.request).2.filter Record.isAccess = [app.accessLine d] := by
  unfold accessLine responseTo answer
  dsimp only
  rw [status_sentFor, Dispatch.context]
  cases hcontext : requestContext d.entry d.request with
  | ok c =>
    have hroute := (app.caught_route d.request { Exchange.fresh with context := some c }).2
    rw [exchange_of_ok hcontext, List.filter_append, filter_isAccess_write h, respond, hroute]
    rfl
  | error f =>
    rw [exchange_of_error hcontext, List.filter_append, filter_isAccess_faultRecords,
      filter_isAccess_write h]
    rfl

/-! ## Requests in a row -/

/-- Requests in a row are answered one by one. -/
theorem dispatchAll_fst (app : App) (ds : List Dispatch) :
    (app.dispatchAll ds).1 = ds.map app.responseTo := by
  induction ds with
  | nil => rfl
  | cons d ds ih => rw [dispatchAll, ih]; rfl

/-- **Requests in a row leave a line each**, in their order. -/
theorem filter_isAccess_dispatchAll (h : app.logger.enables .info) (ds : List Dispatch) :
    (app.dispatchAll ds).2.filter Record.isAccess = ds.map app.accessLine := by
  induction ds with
  | nil => rfl
  | cons d ds ih => rw [dispatchAll, List.filter_append, filter_isAccess_answer h, ih]; rfl

end App

/-! ## What a line tells -/

/-- Fields that tell of a request what its context is. The authority is the one that the request
names, or `null` when it is for the fallback host of the listener. -/
structure RequestContext.ToldBy (c : RequestContext) (fields : List (String × Json)) : Prop where
  /-- the URL is that of the context -/
  url : Json.lookup "url" fields = some (.str c.url)
  /-- the authority is the one that is named -/
  authority : ∀ a, c.authority = some a →
    Json.lookup "authority" fields = some (.str a) ∧ c.host = a
  /-- it is `null` when the fallback host is used -/
  fallback : c.authority = none →
    Json.lookup "authority" fields = some .null ∧ c.host = c.listen.fallbackHost
  /-- the transport is that of the connection -/
  transport : Json.lookup "transport" fields = some (.str c.connection.streamType.name)
  /-- the address of the peer is that of the connection -/
  peerAddress : Json.lookup "peerAddress" fields = some (.str c.connection.peerAddress)
  /-- the port of the peer is that of the connection, and is absent when there is none -/
  peerPort : Json.lookup "peerPort" fields = c.connection.peerPort.map .nat

/-- Fields that tell of a request that it has no context. -/
structure Request.ToldWithoutContext (r : Request) (fields : List (String × Json)) : Prop where
  /-- the URL is the one that it was routed by -/
  url : Json.lookup "url" fields = some (.str r.url.href)
  /-- no authority is told -/
  authority : Json.lookup "authority" fields = some .null
  /-- the transport is absent -/
  transport : Json.lookup "transport" fields = none
  /-- the address of the peer is absent -/
  peerAddress : Json.lookup "peerAddress" fields = none
  /-- the port of the peer is absent -/
  peerPort : Json.lookup "peerPort" fields = none

/-- A line of the access log that agrees with the answer to a request: besides the fields that every
record carries it has fields that tell the method, the status of the answer, and what is known of
the request. -/
def Dispatch.LoggedAs (d : Dispatch) (logger : Logger) (response : Response) (line : Record) :
    Prop :=
  line.level = .info ∧ line.message = "request" ∧
    ∃ fields, line.fields = logger.bindings ++ fields ∧
      Json.lookup "method" fields = some (.str d.request.method) ∧
      Json.lookup "status" fields = some (.nat response.status) ∧
      match d.context with
      | .ok c => c.ToldBy fields
      | .error _ => d.request.ToldWithoutContext fields

namespace App

/-- What the fields of a line tell, with or without a context. -/
theorem lookup_accessFields (r : Request) (status : Nat) (c : Option RequestContext) :
    let fields := accessFields r status c
    Json.lookup "method" fields = some (.str r.method) ∧
      Json.lookup "url" fields = some (.str ((c.map (·.url)).getD r.url.href)) ∧
      Json.lookup "status" fields = some (.nat status) ∧
      Json.lookup "authority" fields = some (.orNull ((c.bind (·.authority)).map .str)) ∧
      Json.lookup "transport" fields = c.map (fun c => .str c.connection.streamType.name) ∧
      Json.lookup "peerAddress" fields = c.map (fun c => .str c.connection.peerAddress) ∧
      Json.lookup "peerPort" fields = (c.bind (·.connection.peerPort)).map .nat := by
  simp [accessFields, Json.lookup_append, Json.lookup_cons, Json.lookup_optional,
    Json.lookup_nil]

/-- The host of a context is the authority that the request names, or else the fallback host. -/
theorem host_contextOf (entry : ConnectionEntry) (r : Request) :
    (contextOf entry r).host =
      (contextOf entry r).authority.getD (contextOf entry r).listen.fallbackHost := rfl

/-- A request has a context when its connection is known, and then that is the one computed. -/
theorem requestContext_eq_ok_iff {entry : Option ConnectionEntry} {r : Request}
    {c : RequestContext} :
    requestContext entry r = .ok c ↔ ∃ e, entry = some e ∧ c = contextOf e r := by
  cases entry <;> simp [requestContext, eq_comm]

/-- A line with a context tells what that context is. -/
theorem toldBy_accessFields {entry : Option ConnectionEntry} {r : Request} {c : RequestContext}
    (h : requestContext entry r = .ok c) (status : Nat) :
    c.ToldBy (accessFields r status (some c)) := by
  have hhost : c.host = c.authority.getD c.listen.fallbackHost := by
    obtain ⟨e, -, rfl⟩ := requestContext_eq_ok_iff.mp h
    exact host_contextOf e r
  obtain ⟨-, hurl, -, hauthority, htransport, haddress, hport⟩ :=
    lookup_accessFields r status (some c)
  refine ⟨hurl, fun a ha => ?_, fun hnone => ?_, htransport, haddress, hport⟩
  · rw [Option.bind_some, ha] at hauthority
    exact ⟨hauthority, by rw [hhost, ha, Option.getD_some]⟩
  · rw [Option.bind_some, hnone] at hauthority
    exact ⟨hauthority, by rw [hhost, hnone, Option.getD_none]⟩

/-- A line without a context tells that there is none. -/
theorem toldWithoutContext_accessFields (r : Request) (status : Nat) :
    r.ToldWithoutContext (accessFields r status none) := by
  obtain ⟨-, hurl, -, hauthority, htransport, haddress, hport⟩ := lookup_accessFields r status none
  exact ⟨hurl, hauthority, htransport, haddress, hport⟩

/-- The line that a request leaves agrees with its answer. -/
theorem loggedAs_accessLine (app : App) (d : Dispatch) :
    d.LoggedAs app.logger (app.responseTo d) (app.accessLine d) := by
  refine ⟨rfl, rfl, _, rfl, (lookup_accessFields _ _ _).1, (lookup_accessFields _ _ _).2.2.1, ?_⟩
  cases hcontext : d.context with
  | ok c => exact toldBy_accessFields hcontext _
  | error f => exact toldWithoutContext_accessFields _ _

/-- **The access log agrees with the requests and the answers.** When the records of the level
`info` are written, requests dispatched one after the other leave as many lines as there are
requests, and each line agrees with its request and with the answer that is returned. -/
theorem accessLog_agrees (app : App) (h : app.logger.enables .info) (ds : List Dispatch) :
    let responses := (app.dispatchAll ds).1
    let lines := (app.dispatchAll ds).2.filter Record.isAccess
    lines.length = ds.length ∧ ∀ (i : Nat) (d : Dispatch), ds[i]? = some d →
      ∃ response line, responses[i]? = some response ∧ lines[i]? = some line ∧
        d.LoggedAs app.logger response line := by
  intro responses lines
  have hlines : lines = ds.map app.accessLine := filter_isAccess_dispatchAll h ds
  have hresponses : responses = ds.map app.responseTo := app.dispatchAll_fst ds
  refine ⟨by rw [hlines, List.length_map], fun i d hd => ?_⟩
  refine ⟨app.responseTo d, app.accessLine d, ?_, ?_, app.loggedAs_accessLine d⟩
  · rw [hresponses, List.getElem?_map, hd, Option.map_some]
  · rw [hlines, List.getElem?_map, hd, Option.map_some]

/-- A request that no route answers, one on an unknown connection, and one for the head of an
answer. -/
theorem accessLog_agrees_three :
    let app := App.standard (.create .info [])
    let listen := ListenProperties.create .tcp (.ip "127.0.0.1" 3000)
    let entry : ConnectionEntry := ⟨listen, .create listen (.ip "192.0.2.10" 45678)⟩
    let request (method path : String) (rawHeaders : List String) : Request :=
      ⟨method, ⟨false, "", "", "localhost", none, path, none, none⟩, some path, rawHeaders, none, 0⟩
    let ds : List Dispatch := [⟨some entry, request "GET" "/missing" []⟩,
      ⟨none, request "GET" "/context" []⟩,
      ⟨some entry, request "HEAD" "/context" ["Host", "api.example"]⟩]
    let lines := (app.dispatchAll ds).2.filter Record.isAccess
    app.logger.enables .info = true ∧ lines.length = 3 ∧
      (app.dispatchAll ds).1.map (·.status) = [404, 500, 200] ∧
      ∃ response line, (app.dispatchAll ds).1[1]? = some response ∧ lines[1]? = some line ∧
        Dispatch.LoggedAs ⟨none, request "GET" "/context" []⟩ app.logger response line := by
  intro app listen entry request ds lines
  have henables : app.logger.enables .info = true := by decide
  obtain ⟨hlength, hagree⟩ := accessLog_agrees app henables ds
  exact ⟨henables, hlength, by decide +kernel, hagree 1 _ rfl⟩

end App

end TargetUri
