import TargetUri.App
import TargetUri.Config.Schema
import TargetUri.Resource.Table

set_option autoImplicit false

/-!
# Serving

Opening listeners, serving them, accepting connections on them and closing them.

## Main definitions

* `TargetUri.openListener` — opens a configured listener.
* `TargetUri.serveListener` — takes a listener from a table and serves it.
* `TargetUri.ServeHandle` — a listener that is served.
* `TargetUri.ServeHandle.accept`, `TargetUri.ServeHandle.adopt`, `TargetUri.ServeHandle.close` — a
  connection that arrives, a stream that is handed over, the end.
* `TargetUri.Registry` — what is known of connections.

## Design

A listener passes from the table to whoever serves it: after serving has begun or failed the table
has it no more, except when the number was a wrong one. A stale socket file is removed before a
listener is opened on its path.
-/

namespace TargetUri

/-! ## Opening -/

/-- The machine without the file at a path, if there was one. -/
def removeStale (m : Machine) (path : String) : Except SystemError Machine :=
  match m.files.unlinkPath m.env.cwd path with
  | .ok files => .ok { m with files }
  | .error .noEntry => .ok m
  | .error e => .error e

/-- Reads a file of a configuration. -/
def readConfigured (m : Machine) (path : WideString) : Except SystemError Bytes :=
  m.files.readPath m.env.cwd (m.env.expandHome path)

/-- Reads two files of a configuration at once. Where neither can be read, the machine says which of
them fails first. -/
def readPair (m : Machine) (path path' : WideString) : Except SystemError (Bytes × Bytes) :=
  match readConfigured m path, readConfigured m path' with
  | .ok content, .ok content' => .ok (content, content')
  | .error e, .ok _ => .error e
  | .ok _, .error e => .error e
  | .error e, .error e' => .error (if m.secondFailsFirst then e' else e)

/-- Opens a configured listener: the number of its server, or why it cannot be opened. -/
def openServer (m : Machine) : ListenerConfig → Except SystemError Nat × Machine
  | .tcp hostname port => m.listenIp hostname port.toNat
  | .tls hostname port certPath keyPath =>
    match readPair m certPath keyPath with
    | .error e => (.error e, m)
    | .ok (cert, key) =>
      match m.pairFault? cert key with
      | some code => (.error (.unusablePair code), m)
      | none => m.listenIp hostname port.toNat
  | .unix path =>
    match removeStale m (m.env.expandHome path) with
    | .error e => (.error e, m)
    | .ok m => m.listenUnix (m.env.expandHome path)

/-- Opens a configured listener and puts it into a table, under the number given. -/
def openListener (m : Machine) (t : ResourceTable) (c : ListenerConfig) :
    Except Fault Nat × Machine × ResourceTable :=
  match openServer m c with
  | (.error e, m) => (.error (.system e), m, t)
  | (.ok id, m) =>
    let r := t.add (.server id c.transport)
    (.ok r.1, m, r.2)

/-! ## Connections -/

/-- What is known of connections, by socket, latest first. -/
abbrev Registry := List (Nat × ConnectionEntry)

/-- A listener that is served. -/
structure ServeHandle where
  /-- what is known of it -/
  listen : ListenProperties
  /-- its server -/
  server : Nat
  /-- where it logs -/
  logger : Logger

namespace ServeHandle

/-- A connection that arrives on a listener: what is known of it, unless its peer is gone, and the
records that are written. -/
def accept (h : ServeHandle) (socket : Socket) : Option ConnectionEntry × List Record :=
  match socket.peerAddress? h.listen.streamType with
  | none => (none, h.logger.write .debug [] "Connection closed before it could be registered")
  | some peer =>
    let connection := ConnectionProperties.create h.listen peer
    (some ⟨h.listen, connection⟩,
      h.logger.write .debug [("connection", connection.toJson)] "Connection accepted")

/-- A registry after a connection has arrived on a socket, and the records that are written. -/
def register (h : ServeHandle) (m : Machine) (registry : Registry) (socket : Nat) :
    Registry × List Record :=
  match h.accept (m.socket socket) with
  | (some entry, records) => ((socket, entry) :: registry, records)
  | (none, records) => (registry, records)

/-- Closes a listener. It is an error to close it again. -/
def close (h : ServeHandle) (m : Machine) : Except Fault Unit × Machine × List Record :=
  match m.closeServer h.server with
  | (.error e, m) => (.error (.system e), m, [])
  | (.ok (), m) => (.ok (), m, h.logger.write .info [] "Listener closed")

end ServeHandle

/-! ## Serving a listener -/

/-- How a listener is taken from a table. -/
abbrev Claim := ResourceTable → Int → Except Fault (Resource × ResourceTable)

/-- Closes a resource that cannot be used, and gives the fault of that; if closing it fails, the
fault of closing it. -/
def reject {α : Type} (m : Machine) (r : Resource) (f : Fault) : Except Fault α × Machine :=
  match r.close m with
  | (.error g, m) => (.error g, m)
  | (.ok (), m) => (.error f, m)

/-- The outcome of an operation on a machine and a table that writes records. -/
structure Effect (α : Type) where
  /-- a value, or why there is none -/
  result : Except Fault α
  /-- the machine afterwards -/
  machine : Machine
  /-- the table afterwards -/
  table : ResourceTable
  /-- the records written -/
  log : List Record

/-- Serves a server of the machine, if it listens. -/
def serveServer (m : Machine) (logger : Logger) (id : Nat) (t : StreamType) :
    Except Fault ServeHandle × List Record :=
  match m.serverAddress? id with
  | none => (.error .notListening, [])
  | some address =>
    let listen := ListenProperties.create t address
    let logger := logger.child
      [("transport", .str listen.streamType.name), ("fallbackHost", .str listen.fallbackHost)]
    (.ok ⟨listen, id, logger⟩,
      logger.write .info [("localPort", .orNull (listen.localPort.map .nat))] "Listening")

/-- **Takes a listener from a table and serves it.** One that no server stands behind is closed
instead. -/
def serveListener (claim : Claim) (logger : Logger) (m : Machine) (t : ResourceTable) (rid : Int) :
    Effect ServeHandle :=
  match claim t rid with
  | .error f => ⟨.error f, m, t, []⟩
  | .ok (.server id st, t) =>
    let r := serveServer m logger id st
    ⟨r.1, m, t, r.2⟩
  | .ok (r, t) =>
    let o := reject m r (.unsupportedListener rid r.name)
    ⟨o.1, o.2, t, []⟩

/-- **Takes a stream from a table and hands it to a listener that is served.** One that no socket
stands behind is closed instead. Over TLS the stream only counts as a connection once its handshake
is done, which is not part of this. -/
def ServeHandle.adopt (h : ServeHandle) (m : Machine) (t : ResourceTable) (registry : Registry)
    (rid : Int) : Effect Unit × Registry :=
  match t.takeStream rid with
  | .error f => (⟨.error f, m, t, []⟩, registry)
  | .ok (.socket id _ _, t) =>
    if h.listen.streamType = .tls then (⟨.ok (), m, t, []⟩, registry)
    else
      let r := h.register m registry id
      (⟨.ok (), m, t, r.2⟩, r.1)
  | .ok (r, t) =>
    let o := reject m r (.unsupportedStream rid r.name)
    (⟨o.1, o.2, t, []⟩, registry)

/-! ## Requests -/

/-- A host without a colon and digits at its end. -/
def withoutPort (host : List Char) : List Char :=
  match splitLast ':' host with
  | some (before, ds) => if ds ≠ [] ∧ ds.all Char.isDigit then before else host
  | none => host

/-- Whether a target has a backslash in what stands before its query and fragment. -/
def hasBackslash (target : List Char) : Bool :=
  (target.takeWhile (!Url.endsPath ·)).contains '\\'

/-- The URL by which a request on a socket is routed. An absolute target is one itself; any other
is put after the host that the first `Host` field names. That field must be a host and nothing
more: as long as the host in the URL, or equal to it but for the port. Lengths are those in 16-bit
units. A target in which a backslash might pass for a slash is refused. -/
def routingUrl? (target : String) (rawHeaders : List String) : Option Url :=
  if hasBackslash target.toList then none
  else if Url.isAbsolute target then Url.parse? target
  else
    match rawHeader hostField rawHeaders with
    | none => none
    | some host =>
      if host = "" then none
      else
        match Url.parse? ("http://" ++ host ++ target) with
        | none => none
        | some url =>
          if Text.unitCount url.hostname = Text.unitCount host ∨
              url.hostname.toList = withoutPort host.toList then
            some url
          else none

/-- The answer to a request on a socket, and the records that are written. A request without a URL
to route it by does not reach the application. One without a method is a `GET`. -/
def answerOn (app : App) (m : Machine) (registry : Registry) (socket : Nat) (method target : String)
    (rawHeaders : List String) : Response × List Record :=
  match routingUrl? target rawHeaders with
  | none => (⟨400, none⟩, [])
  | some url =>
    app.answer (registry.lookup socket)
      { method := if method = "" then "GET" else method, url, target := some target, rawHeaders
        elapsedMs := 0, remoteAddress := (m.socket socket).remoteAddress }

end TargetUri
