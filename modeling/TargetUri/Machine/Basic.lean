import TargetUri.Machine.Files
import TargetUri.Net.Address

set_option autoImplicit false

/-!
# The machine

What the program finds around it and changes: directories, files, listening servers, connected
sockets.

## Main definitions

* `TargetUri.Machine` — the state of a machine.
* `TargetUri.Machine.listenIp`, `TargetUri.Machine.listenUnix`, `TargetUri.Machine.closeServer` —
  opening and closing listening servers.
* `TargetUri.Socket.peerAddress?`, `TargetUri.Socket.localAddress?` — the ends of a connected
  socket.

## Design

Servers and sockets are known by their position in the machine's lists and are never removed: a
server that has been closed reports no address any more and holds nothing.

What the machine does not decide by its state is given with it: whether a certificate chain and a
private key can be used together, and which of two files that cannot be read is found out first.
-/

namespace TargetUri

/-- What a listening server holds of the machine. -/
inductive Endpoint where
  /-- a port of an address -/
  | port (hostname : String) (port : Nat)
  /-- a socket file -/
  | file (place : Place)
deriving DecidableEq, Repr

/-- A listening server, or one that has been closed. -/
structure Server where
  /-- the address it listens on, while it does -/
  address : Option Address
  /-- what it keeps others from listening on -/
  holds : Option Endpoint
deriving DecidableEq, Repr

/-- A connected socket. What cannot be read of its ends is missing. -/
structure Socket where
  /-- the IP address of the peer -/
  remoteAddress : Option String
  /-- the port of the peer -/
  remotePort : Option Nat
  /-- the IP address of this end -/
  localAddress : Option String
  /-- the port of this end -/
  localPort : Option Nat
  /-- whether it has been closed by this program -/
  destroyed : Bool
deriving DecidableEq, Repr

/-- The address of an end that is known completely. -/
def ipAddress? : Option String → Option Nat → Option Address
  | some hostname, some port => some (.ip hostname port)
  | _, _ => none

/-- The address of the peer, unless the socket was closed before it could be read. The peer of a
socket file is unnamed. -/
def Socket.peerAddress? (s : Socket) : StreamType → Option Address
  | .unix => some (.unix .unnamed)
  | _ => ipAddress? s.remoteAddress s.remotePort

/-- The address of this end, on the same terms. -/
def Socket.localAddress? (s : Socket) : StreamType → Option Address
  | .unix => some (.unix .unnamed)
  | _ => ipAddress? s.localAddress s.localPort

/-- The first of the ports that a machine gives out itself. -/
def firstFreePort : Nat := 49152

/-- The state of a machine. -/
structure Machine where
  /-- the directories that paths depend on -/
  env : Environment
  /-- the files -/
  files : FileTree
  /-- the port that the next listener on port zero gets -/
  nextPort : Nat
  /-- the servers, open and closed -/
  servers : List Server
  /-- the sockets -/
  sockets : List Socket
  /-- for each resource that only exists in memory, whether it has been closed -/
  closedFlags : List Bool
  /-- why a certificate chain and a private key cannot be used together, if they cannot -/
  pairFault? : Bytes → Bytes → Option String
  /-- whether of two files read at once the second one fails first -/
  secondFailsFirst : Bool

namespace Machine

/-- A machine on which nothing has happened yet, every certificate chain goes with every key, and
files are read in order. -/
def start (env : Environment) (files : FileTree) : Machine :=
  ⟨env, files, firstFreePort, [], [], [], fun _ _ => none, false⟩

/-- The place of a path. -/
def place (m : Machine) (path : String) : Place := Path.place m.env.cwd path

/-! ## Listening -/

/-- What the servers of the machine hold. -/
def held (m : Machine) : List Endpoint := m.servers.filterMap (·.holds)

/-- The machine with one more server, and the server's number. -/
def addServer (m : Machine) (s : Server) : Nat × Machine :=
  (m.servers.length, { m with servers := m.servers ++ [s] })

/-- Opens a server on a port of an address, or on the next free port.

This is what binding does on a machine on which every address can be bound to, other programs listen
on nothing, and a name is the address that it stands for. Then the one thing that can be in the way
is a server of this program on the same text and port: that two texts can say the same address, or
one address include another, is left out, and so is that the next free port may be held already. -/
def listenIp (m : Machine) (hostname : String) (port : Nat) : Except SystemError Nat × Machine :=
  if port = 0 then
    let r := { m with nextPort := m.nextPort + 1 }.addServer
      ⟨some (.ip hostname m.nextPort), some (.port hostname m.nextPort)⟩
    (.ok r.1, r.2)
  else if Endpoint.port hostname port ∈ m.held then (.error .addressInUse, m)
  else
    let r := m.addServer ⟨some (.ip hostname port), some (.port hostname port)⟩
    (.ok r.1, r.2)

/-- Opens a server on a socket file, which must not exist yet and whose directory must. -/
def listenUnix (m : Machine) (path : String) : Except SystemError Nat × Machine :=
  match m.files.locate m.env.cwd path with
  | .error .noEntry => (.error .accessDenied, m)
  | .error e => (.error e, m)
  | .ok ⟨p, slash⟩ =>
    if (m.files.node? p).isSome then (.error .addressInUse, m)
    else if slash then (.error .accessDenied, m)
    else
      let r := { m with files := m.files.set p .socket }.addServer
        ⟨some (.unix (.text path)), some (.file p)⟩
      (.ok r.1, r.2)

/-- The files after what a server held has been given back: a socket file is removed, whoever made
what is there now. -/
def releaseFiles (files : FileTree) : Option Endpoint → FileTree
  | some (.file p) =>
    match files.unlink p with
    | .ok t => t
    | .error _ => files
  | _ => files

/-- The address of a server, while it listens. -/
def serverAddress? (m : Machine) (id : Nat) : Option Address := m.servers[id]?.bind (·.address)

/-- Closes a server, which gives back what it held. -/
def closeServer (m : Machine) (id : Nat) : Except SystemError Unit × Machine :=
  match m.servers[id]? with
  | none => (.error .notRunning, m)
  | some s =>
    if s.address.isNone then (.error .notRunning, m)
    else
      (.ok (), { m with
        servers := m.servers.set id ⟨none, none⟩
        files := releaseFiles m.files s.holds })

/-! ## Sockets -/

/-- The machine with one more socket, and the socket's number. -/
def addSocket (m : Machine) (s : Socket) : Nat × Machine :=
  (m.sockets.length, { m with sockets := m.sockets ++ [s] })

/-- A socket about which nothing is known. -/
def unknownSocket : Socket := ⟨none, none, none, none, false⟩

/-- The socket of a number. -/
def socket (m : Machine) (id : Nat) : Socket := m.sockets[id]?.getD unknownSocket

/-- The machine with something else to be read of a socket. -/
def setSocket (m : Machine) (id : Nat) (s : Socket) : Machine :=
  { m with sockets := m.sockets.set id s }

/-- Closes a socket. -/
def destroySocket (m : Machine) (id : Nat) : Machine :=
  { m with sockets := m.sockets.modify id fun s => { s with destroyed := true } }

/-! ## Resources in memory -/

/-- The machine with one more resource in memory, open, and its number. -/
def addFlag (m : Machine) : Nat × Machine :=
  (m.closedFlags.length, { m with closedFlags := m.closedFlags ++ [false] })

/-- Marks a resource in memory as closed. -/
def setFlag (m : Machine) (id : Nat) : Machine :=
  { m with closedFlags := m.closedFlags.set id true }

/-- Whether a resource in memory has been closed. -/
def flag (m : Machine) (id : Nat) : Bool := m.closedFlags[id]?.getD false

end Machine

end TargetUri
