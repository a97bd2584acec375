import TargetUri.Fault
import TargetUri.Machine.Basic

set_option autoImplicit false

/-!
# Resources

What a resource table holds: listeners and streams, of the machine or only in memory, and anything
else that has a name and can be closed.

## Main definitions

* `TargetUri.Resource` — a resource.
* `TargetUri.Resource.isListener`, `TargetUri.Resource.isStream` — the kinds that can be served.
* `TargetUri.Resource.close` — closing a resource.
* `TargetUri.Resource.Spec` — what a resource is made from.

## Design

A resource only refers to what changes when it is closed, which is part of the machine: a server, a
socket, or a flag. Two resources are the same when they refer to the same thing. The kind of a
resource is decided by its name and by which members it has, not by how it was made, so a foreign
resource that has what a listener has counts as one. Closing a foreign resource may fail in any way,
but it only concerns the resource itself.
-/

namespace TargetUri

/-- A member that a resource may have besides its name and `close`. -/
inductive Member where
  /-- its transport -/
  | streamType
  /-- the address of this end -/
  | localAddress
  /-- the address of the peer -/
  | peerAddress
deriving DecidableEq, Repr

/-- A resource. -/
inductive Resource where
  /-- a listener in memory, bound to nothing -/
  | memoryListener (flag : Nat) (t : StreamType) (address : Address)
  /-- a stream in memory, connected to nothing -/
  | memoryStream (flag : Nat) (t : StreamType) (here peer : Address)
  /-- a resource of some other program part: its name, the members it has, and the fault that
  closing it causes, if it does, which can be any -/
  | foreign (flag : Nat) (name : String) (members : List Member) (closeFault : Option Fault)
  /-- a listening server of the machine -/
  | server (id : Nat) (t : StreamType)
  /-- a socket of the machine, and the path of its listener if that is a socket file -/
  | socket (id : Nat) (t : StreamType) (path : Option String)

/-- The name of a listener resource. -/
def StreamType.listenerName : StreamType → String
  | .tcp => "tcpListener"
  | .tls => "tlsListener"
  | .unix => "unixListener"

/-- The name of a stream resource. -/
def StreamType.streamName : StreamType → String
  | .tcp => "tcpStream"
  | .tls => "tlsStream"
  | .unix => "unixStream"

namespace Resource

/-! ## Kinds -/

/-- The name of a resource. -/
def name : Resource → String
  | memoryListener _ t _ => t.listenerName
  | memoryStream _ t _ _ => t.streamName
  | foreign _ name _ _ => name
  | server _ t => t.listenerName
  | socket _ t _ => t.streamName

/-- The members that a resource has. -/
def members : Resource → List Member
  | memoryListener .. => [.streamType, .localAddress]
  | memoryStream .. => [.streamType, .localAddress, .peerAddress]
  | foreign _ _ members _ => members
  | server .. => [.streamType, .localAddress]
  | socket .. => [.streamType, .localAddress, .peerAddress]

/-- The names of listener resources. -/
def listenerNames : List String := [StreamType.tcp, .tls, .unix].map StreamType.listenerName

/-- The names of stream resources. -/
def streamNames : List String := [StreamType.tcp, .tls, .unix].map StreamType.streamName

/-- Whether a resource counts as a listener: it is called one, and has a transport and an address
of its own. -/
def isListener (r : Resource) : Bool :=
  r.name ∈ listenerNames && Member.streamType ∈ r.members && Member.localAddress ∈ r.members

/-- Whether a resource counts as a stream: it is called one, and has a transport and a peer. -/
def isStream (r : Resource) : Bool :=
  r.name ∈ streamNames && Member.streamType ∈ r.members && Member.peerAddress ∈ r.members

/-! ## What resources tell -/

/-- The transport of a resource. -/
def streamType? : Resource → Option StreamType
  | memoryListener _ t _ => some t
  | memoryStream _ t _ _ => some t
  | foreign .. => none
  | server _ t => some t
  | socket _ t _ => some t

/-- An address that was read, or the fault of one that was lost. -/
def addressOr (side : String) : Option Address → Except Fault Address
  | some a => .ok a
  | none => .error (.lostAddress side)

/-- What a resource tells of its own address. -/
def localAddress? (m : Machine) : Resource → Option (Except Fault Address)
  | memoryListener _ _ address => some (.ok address)
  | memoryStream _ _ here _ => some (.ok here)
  | foreign .. => none
  | server id _ =>
    match m.serverAddress? id with
    | some a => some (.ok a)
    | none => some (.error .notListening)
  | socket _ .unix (some path) => some (.ok (.unix (.text path)))
  | socket _ .unix none => some (.ok (.unix .unnamed))
  | socket id t _ => some (addressOr "local" ((m.socket id).localAddress? t))

/-- What a resource tells of its peer. -/
def peerAddress? (m : Machine) : Resource → Option (Except Fault Address)
  | memoryStream _ _ _ peer => some (.ok peer)
  | socket id t _ => some (addressOr "peer" ((m.socket id).peerAddress? t))
  | _ => none

/-! ## Closing -/

/-- Closes a resource. Closing a server that does not listen does nothing, and a foreign resource
may refuse and stay open. -/
def close (m : Machine) : Resource → Except Fault Unit × Machine
  | memoryListener flag _ _ => (.ok (), m.setFlag flag)
  | memoryStream flag _ _ _ => (.ok (), m.setFlag flag)
  | foreign flag _ _ none => (.ok (), m.setFlag flag)
  | foreign _ _ _ (some fault) => (.error fault, m)
  | server id _ => (.ok (), (m.closeServer id).2)
  | socket id _ _ => (.ok (), m.destroySocket id)

/-- Whether a resource is closed. -/
def isClosed (m : Machine) : Resource → Bool
  | memoryListener flag _ _ => m.flag flag
  | memoryStream flag _ _ _ => m.flag flag
  | foreign flag _ _ _ => m.flag flag
  | server id _ => (m.serverAddress? id).isNone
  | socket id _ _ => (m.socket id).destroyed

/-- Whether a resource is a listener or stream in memory. -/
def isInMemory : Resource → Bool
  | memoryListener .. => true
  | memoryStream .. => true
  | _ => false

/-! ## Making resources -/

/-- What a resource is made from. -/
inductive Spec where
  /-- a listener in memory -/
  | memoryListener (t : StreamType) (address : Address)
  /-- a stream in memory -/
  | memoryStream (t : StreamType) (here peer : Address)
  /-- a foreign resource, and the fault that closing it causes, if it does -/
  | other (name : String) (members : List Member) (closeFault : Option Fault)
  /-- a server that listens on an address, or on none, and holds nothing of the machine -/
  | server (t : StreamType) (address : Option Address)
  /-- a connected socket -/
  | socket (t : StreamType) (socket : Socket) (path : Option String)

/-- The code of the fault of a foreign resource that refuses to close in words. -/
def closeCode : String := "CLOSE"

/-- A foreign resource that closes, or refuses to in the words given. -/
def Spec.foreign (name : String) (members : List Member) (refusal : Option String) : Spec :=
  .other name members (refusal.map fun message => .coded closeCode message none)

/-- A new resource, and the machine with what it refers to. -/
def make (m : Machine) : Spec → Resource × Machine
  | .memoryListener t address => (memoryListener m.addFlag.1 t address, m.addFlag.2)
  | .memoryStream t here peer => (memoryStream m.addFlag.1 t here peer, m.addFlag.2)
  | .other name members closeFault => (foreign m.addFlag.1 name members closeFault, m.addFlag.2)
  | .server t address =>
    let r := m.addServer ⟨address, none⟩
    (server r.1 t, r.2)
  | .socket t s path =>
    let r := m.addSocket s
    (socket r.1 t path, r.2)

end Resource

end TargetUri
