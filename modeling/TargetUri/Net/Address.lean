import TargetUri.Net.Ip
import TargetUri.Text.Percent
import TargetUri.Text.Wide

set_option autoImplicit false

/-!
# Transports and addresses

Where a listener is bound and whom a connection comes from, and the host that names a listener in
the URL of a request that names none itself.

## Main definitions

* `TargetUri.StreamType` — the transport of a listener or stream; its scheme and default port.
* `TargetUri.Address` — an IP endpoint or a socket file.
* `TargetUri.formatIpPort` — an IP address and a port as the host part of a URL.
* `TargetUri.Address.fallbackHost` — the host that names a listener.
-/

namespace TargetUri

/-! ## Transports -/

/-- The transport of a listener or stream. -/
inductive StreamType where
  /-- plain TCP -/
  | tcp
  /-- TLS over TCP -/
  | tls
  /-- a socket file -/
  | unix
deriving DecidableEq, Repr, Inhabited

namespace StreamType

/-- The name of a transport in configuration, records and answers. -/
def name : StreamType → String
  | tcp => "tcp"
  | tls => "tls"
  | unix => "unix"

/-- The transport of a name. -/
def ofName? : String → Option StreamType
  | "tcp" => some tcp
  | "tls" => some tls
  | "unix" => some unix
  | _ => none

/-- The scheme of the URLs of requests that arrive over a transport, up to the host. -/
def scheme : StreamType → String
  | tcp => "http://"
  | tls => "https://"
  | unix => "http+unix://"

/-- The port that a URL of the transport's scheme leaves out. -/
def defaultPort : StreamType → Option Nat
  | tcp => some 80
  | tls => some 443
  | unix => none

/-- Whether a number is the default port of a transport. -/
def isDefaultPort (t : StreamType) (port : Int) : Bool :=
  match t.defaultPort with
  | some p => (p : Int) == port
  | none => false

end StreamType

/-! ## Addresses -/

/-- The path of a socket file: text, or bytes that need not be text, or none for an unnamed
socket. -/
inductive SocketPath where
  /-- no path -/
  | unnamed
  /-- a path given as text -/
  | text (path : WideString)
  /-- a path given as bytes -/
  | bytes (path : Bytes)
deriving DecidableEq, Repr

/-- The address of one end of a stream, or of a listener. -/
inductive Address where
  /-- an IP address, as text, and a port -/
  | ip (hostname : String) (port : Nat)
  /-- a socket file -/
  | unix (path : SocketPath)
deriving DecidableEq, Repr

/-- The port of an address; a socket file has none. -/
def Address.port? : Address → Option Nat
  | .ip _ port => some port
  | .unix _ => none

/-- The text of a socket path, in which half of a character without the other half is the
replacement character. Bytes that are not well-formed UTF-8 have none, and neither has an unnamed
socket: their text is empty. -/
def SocketPath.toText : SocketPath → String
  | .unnamed => ""
  | .text path => path.repaired
  | .bytes path => ((Utf8.decodeUnmarked? path).map String.ofList).getD ""

/-! ## Hosts -/

/-- The host part for an IP address and a port. An IPv6 address stands in brackets, so that its
colons are not taken for the one before the port. -/
def formatIpPort (hostname : String) (port : Nat) : String :=
  if Ip.isV6 hostname then "[" ++ hostname ++ "]:" ++ toString port
  else hostname ++ ":" ++ toString port

/-- **The host that names a listener bound to an address.** A loopback or wildcard address is
called `localhost`, the transport's default port is left out, and a socket file is one token made
of its path. -/
def Address.fallbackHost (t : StreamType) : Address → String
  | .ip hostname port =>
    if t.isDefaultPort port then
      if Ip.isLocal hostname then "localhost" else hostname
    else if Ip.isLocal hostname then "localhost:" ++ toString port
    else formatIpPort hostname port
  | .unix path => Percent.encode (Utf8.encode path.toText)

end TargetUri
