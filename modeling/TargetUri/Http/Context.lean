import TargetUri.Http.Header
import TargetUri.Http.Target
import TargetUri.Json.Basic
import TargetUri.Net.Address

set_option autoImplicit false

/-!
# Request contexts

What is known of a request: the listener and the connection it arrived on, the authority it names
and the absolute URL it is for. The records of a listener and of a connection are computed once,
and a request adds only its authority.

## Main definitions

* `TargetUri.ListenProperties`, `TargetUri.ConnectionProperties` — what is known of a listener and
  of a connection on it.
* `TargetUri.requestAuthority` — the authority that a request names, if any.
* `TargetUri.RequestContext.create` — everything known of a request.

## Design

A request over a socket file never names an authority: the file is the only target there is. Over
TCP and TLS an authority in the target wins over the `Host` field, and a request with neither is
for the listener's fallback host.
-/

namespace TargetUri

/-! ## Listeners and connections -/

/-- What is known of a listener. -/
structure ListenProperties where
  /-- its transport -/
  streamType : StreamType
  /-- the scheme of URLs on it -/
  scheme : String
  /-- the host of requests that name none -/
  fallbackHost : String
  /-- its port; a socket file has none -/
  localPort : Option Nat
deriving DecidableEq, Repr

/-- What is known of a connection. -/
structure ConnectionProperties where
  /-- the transport of its listener -/
  streamType : StreamType
  /-- the IP address of the peer as received, or `unix` -/
  peerAddress : String
  /-- the port of the peer -/
  peerPort : Option Nat
  /-- the port of its listener -/
  localPort : Option Nat
deriving DecidableEq, Repr

/-- The properties of a listener bound to an address. -/
def ListenProperties.create (t : StreamType) (address : Address) : ListenProperties where
  streamType := t
  scheme := t.scheme
  fallbackHost := address.fallbackHost t
  localPort := address.port?

/-- The properties of a connection on a listener. -/
def ConnectionProperties.create (listen : ListenProperties) (peer : Address) :
    ConnectionProperties where
  streamType := listen.streamType
  peerAddress :=
    match peer with
    | .ip hostname _ => hostname
    | .unix _ => "unix"
  peerPort := peer.port?
  localPort := listen.localPort

/-- A connection together with its listener. -/
structure ConnectionEntry where
  /-- the listener that accepted the connection -/
  listen : ListenProperties
  /-- the connection -/
  connection : ConnectionProperties
deriving DecidableEq, Repr

/-! ## Requests -/

/-- The name of the field that holds the authority of a request. -/
def hostField : String := "host"

/-- The text of an authority without the transport's default port. When the authority gives no
port, the listener's port stands for it. -/
def Authority.elide (a : Authority) (t : StreamType) (localPort : Option Nat) : String :=
  match a.port.or localPort with
  | some p => if t.isDefaultPort p then a.host else a.raw
  | none => a.raw

/-- **The authority that a request names.** Over a socket file there is none; otherwise it is the
target's, without the transport's default port, or the value of the `Host` field as it stands. -/
def requestAuthority (target : RequestTarget) (headers : HeaderLookup) (t : StreamType)
    (localPort : Option Nat) : Option String :=
  match t with
  | .unix => none
  | t =>
    match target.authority with
    | some a => some (a.elide t localPort)
    | none => (headers hostField).map FieldValue.toText

/-- Everything known of a request. -/
structure RequestContext where
  /-- the scheme of its URL -/
  scheme : String
  /-- the authority that the request names -/
  authority : Option String
  /-- that authority, or the listener's fallback host -/
  host : String
  /-- the absolute URL -/
  url : String
  /-- the listener -/
  listen : ListenProperties
  /-- the connection -/
  connection : ConnectionProperties
deriving DecidableEq, Repr

/-- The path of a URL for a target. A target that is an asterisk or an authority alone has none of
its own. -/
def RequestTarget.urlPath (target : RequestTarget) : String :=
  match target.path.toList with
  | '/' :: _ => target.path
  | _ => "/"

/-- The context of a request on a connection. -/
def RequestContext.create (entry : ConnectionEntry) (target : RequestTarget)
    (headers : HeaderLookup) : RequestContext :=
  let authority :=
    requestAuthority target headers entry.connection.streamType entry.connection.localPort
  let host := authority.getD entry.listen.fallbackHost
  { scheme := entry.listen.scheme
    authority
    host
    url := entry.listen.scheme ++ host ++ target.urlPath
    listen := entry.listen
    connection := entry.connection }

/-! ## As JSON -/

/-- The record of a listener, without what it lacks. -/
def ListenProperties.toJson (l : ListenProperties) : Json :=
  .obj ([("streamType", .str l.streamType.name), ("scheme", .str l.scheme),
    ("fallbackHost", .str l.fallbackHost)] ++ Json.optional "localPort" (l.localPort.map .nat))

/-- The record of a connection, without what it lacks. -/
def ConnectionProperties.toJson (c : ConnectionProperties) : Json :=
  .obj ([("streamType", .str c.streamType.name), ("peerAddress", .str c.peerAddress)] ++
    Json.optional "peerPort" (c.peerPort.map .nat) ++
    Json.optional "localPort" (c.localPort.map .nat))

/-- The report of a context: every field, `null` for an authority that is not named. -/
def RequestContext.toJson (c : RequestContext) : Json :=
  .obj [("url", .str c.url), ("scheme", .str c.scheme),
    ("authority", .orNull (c.authority.map .str)), ("host", .str c.host),
    ("listen", c.listen.toJson), ("connection", c.connection.toJson)]

end TargetUri
