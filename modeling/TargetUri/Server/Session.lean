import TargetUri.Server.Start

set_option autoImplicit false

/-!
# Sessions

A run of a program that opens and serves listeners: everything that may happen to it, one step
after the other, and what each step answers.

## Main definitions

* `TargetUri.Session` — the state of a run.
* `TargetUri.SessionStep`, `TargetUri.SessionAnswer` — what happens, and what it answers.
* `TargetUri.Session.step`, `TargetUri.Session.run` — one step, and a run of them.

## Design

Connections are known to a registry, and each registry belongs to one application. The first
registry is that of the session itself; every server that is started has one of its own.
-/

namespace TargetUri

/-- A listener that is served, with the registry that its connections are known to. -/
structure ServedListener where
  /-- the listener -/
  handle : ServeHandle
  /-- the number of the registry -/
  registry : Nat

/-- An application with the registry of its connections. -/
structure Site where
  /-- the application -/
  app : App
  /-- what is known of its connections -/
  registry : Registry

/-- The state of a run. -/
structure Session where
  /-- the machine -/
  machine : Machine
  /-- the resources -/
  table : ResourceTable
  /-- the applications, the session's own first -/
  sites : List Site
  /-- the listeners served so far -/
  handles : List ServedListener
  /-- the sockets met so far -/
  sockets : List Nat
  /-- the listeners and streams in memory made so far -/
  inMemory : List Resource

/-- A server to be started. -/
structure StartRequest where
  /-- its configuration -/
  config : ServerConfig
  /-- where it logs -/
  logger : Logger
  /-- a resource to serve instead of listeners from the table, and from which listener on -/
  substitute : Option (Nat × Resource.Spec)
  /-- whether the server is closed at once -/
  thenClose : Bool

/-- What happens to a session. -/
inductive SessionStep where
  /-- a configured listener is opened into the table -/
  | openListener (config : ListenerConfig)
  /-- a new resource is added to the table -/
  | add (spec : Resource.Spec)
  /-- a listener of the table is served -/
  | serve (rid : Int)
  /-- a server is started -/
  | start (request : StartRequest)
  /-- a connection arrives -/
  | connect (handle : Nat) (socket : Socket)
  /-- a listener accepts a socket that has been met before -/
  | accept (handle : Nat) (socket : Nat)
  /-- a socket is put into the table as a stream -/
  | park (socket : Nat) (t : StreamType) (path : Option String)
  /-- what can be read of a socket changes -/
  | change (socket : Nat) (now : Socket)
  /-- a stream of the table is handed to a listener -/
  | adopt (handle : Nat) (rid : Int)
  /-- a request arrives on a socket -/
  | request (handle : Nat) (socket : Nat) (method target : String) (rawHeaders : List String)
  /-- a listener is closed -/
  | close (handle : Nat)
  /-- a resource of the table is closed -/
  | closeRid (rid : Int)

/-- What a step answers. -/
inductive SessionAnswer where
  /-- the number of a resource -/
  | resource (rid : Nat)
  /-- the number of a listener that is served -/
  | serving (handle : Nat) (listen : ListenProperties)
  /-- the numbers of the listeners of a server, and what its table holds -/
  | started (handles : List (Nat × ListenProperties)) (names : List (Nat × String))
  /-- the number of a socket, and what the session's registry knows of it -/
  | connected (socket : Nat) (entry : Option ConnectionEntry)
  /-- what the session's registry knows of each socket -/
  | adopted (entries : List (Option ConnectionProperties))
  /-- an answer to a request -/
  | response (response : Response)
  /-- that it is done -/
  | done

/-- A step's answer or fault, the session after it, and the records written. -/
structure StepResult where
  /-- the answer, or what went wrong -/
  result : Except Fault SessionAnswer
  /-- the session afterwards -/
  session : Session
  /-- the records written -/
  log : List Record

namespace Session

/-- A session on a machine, whose own application logs to a logger. -/
def start (m : Machine) (logger : Logger) : Session :=
  ⟨m, .empty, [⟨.standard logger, []⟩], [], [], []⟩

/-- The registry of an application. -/
def registry (s : Session) (site : Nat) : Registry := (s.sites[site]?.map (·.registry)).getD []

/-- What the session's own registry knows of a socket. -/
def entry? (s : Session) (socket : Nat) : Option ConnectionEntry := (s.registry 0).lookup socket

/-- The session with another registry for an application. -/
def setRegistry (s : Session) (site : Nat) (registry : Registry) : Session :=
  { s with sites := s.sites.modify site fun x => { x with registry } }

/-- The session with one more resource, not yet in the table. -/
def make (s : Session) (spec : Resource.Spec) : Resource × Session :=
  let (r, m) := Resource.make s.machine spec
  let sockets := match r with
    | .socket id _ _ => s.sockets ++ [id]
    | _ => s.sockets
  (r, { s with
    machine := m, sockets
    inMemory := if r.isInMemory then s.inMemory ++ [r] else s.inMemory })

/-- A step on a listener that is served; on a number that no listener has it does nothing. -/
def onHandle (s : Session) (handle : Nat) (f : ServedListener → StepResult) : StepResult :=
  match s.handles[handle]? with
  | some h => f h
  | none => ⟨.ok .done, s, []⟩

/-! ## Steps -/

/-- Opens a configured listener. -/
def stepOpen (s : Session) (c : ListenerConfig) : StepResult :=
  let (result, m, t) := openListener s.machine s.table c
  ⟨result.map .resource, { s with machine := m, table := t }, []⟩

/-- Adds a resource. -/
def stepAdd (s : Session) (spec : Resource.Spec) : StepResult :=
  let (r, s) := s.make spec
  let (rid, t) := s.table.add r
  ⟨.ok (.resource rid), { s with table := t }, []⟩

/-- The logger of an application. -/
def logger (s : Session) (site : Nat) : Logger :=
  (s.sites[site]?.map (·.app.logger)).getD (.create .fatal [])

/-- Serves a listener. -/
def stepServe (s : Session) (rid : Int) : StepResult :=
  let e := serveListener ResourceTable.takeListener (s.logger 0) s.machine s.table rid
  let s := { s with machine := e.machine, table := e.table }
  match e.result with
  | .error f => ⟨.error f, s, e.log⟩
  | .ok h =>
    ⟨.ok (.serving s.handles.length h.listen), { s with handles := s.handles ++ [⟨h, 0⟩] }, e.log⟩

/-- How a server takes its listeners, and the session with the resource that replaces them. -/
def claimOf (s : Session) : Option (Nat × Resource.Spec) → (Nat → Claim) × Session
  | none => (defaultClaim, s)
  | some (n, spec) =>
    let (r, s) := s.make spec
    (substituteClaim n r, s)

/-- Starts a server. One that is closed at once leaves no trace among the listeners served. -/
def stepStart (s : Session) (r : StartRequest) : StepResult :=
  let (claim, s) := s.claimOf r.substitute
  let e := startServer claim r.logger s.machine r.config
  let s := { s with machine := e.machine }
  match e.result with
  | .error f => ⟨.error f, s, e.log⟩
  | .ok handles =>
    let numbered := (List.range handles.length).zip handles |>.map fun (k, h) =>
      (s.handles.length + k, h.listen)
    let answer := SessionAnswer.started numbered e.table.names
    if r.thenClose then
      let (result, m, log) := closeAll s.machine handles
      ⟨result.map fun _ => answer, { s with machine := m }, e.log ++ log⟩
    else
      let site := s.sites.length
      ⟨.ok answer, { s with
        sites := s.sites ++ [⟨.standard r.logger, []⟩]
        handles := s.handles ++ handles.map fun h => ⟨h, site⟩ }, e.log⟩

/-- A step on a socket that has been met; on a number that no socket has it does nothing. -/
def onSocket (s : Session) (socket : Nat) (f : Nat → StepResult) : StepResult :=
  match s.sockets[socket]? with
  | some id => f id
  | none => ⟨.ok .done, s, []⟩

/-- Lets a listener accept a socket. -/
def stepAccept (s : Session) (socket : Nat) (h : ServedListener) : StepResult :=
  s.onSocket socket fun id =>
    let (registry, log) := h.handle.register s.machine (s.registry h.registry) id
    let s := s.setRegistry h.registry registry
    ⟨.ok (.connected socket (s.entry? id)), s, log⟩

/-- The session that has met one more socket. -/
def meet (s : Session) (socket : Socket) : Session :=
  let (id, m) := s.machine.addSocket socket
  { s with machine := m, sockets := s.sockets ++ [id] }

/-- Lets a connection arrive. -/
def stepConnect (s : Session) (socket : Socket) (h : ServedListener) : StepResult :=
  (s.meet socket).stepAccept s.sockets.length h

/-- Puts a socket into the table. -/
def stepPark (s : Session) (t : StreamType) (path : Option String) (id : Nat) : StepResult :=
  let (rid, table) := s.table.add (.socket id t path)
  ⟨.ok (.resource rid), { s with table }, []⟩

/-- Changes what can be read of a socket. -/
def stepChange (s : Session) (now : Socket) (id : Nat) : StepResult :=
  ⟨.ok .done, { s with machine := s.machine.setSocket id now }, []⟩

/-- Hands a stream to a listener. -/
def stepAdopt (s : Session) (rid : Int) (h : ServedListener) : StepResult :=
  let (e, registry) := h.handle.adopt s.machine s.table (s.registry h.registry) rid
  let s := { s with machine := e.machine, table := e.table }.setRegistry h.registry registry
  ⟨e.result.map fun _ => .adopted (s.sockets.map fun id => (s.entry? id).map (·.connection)),
    s, e.log⟩

/-- Lets a request arrive on a socket. -/
def stepRequest (s : Session) (socket : Nat) (method target : String) (rawHeaders : List String)
    (h : ServedListener) : StepResult :=
  match s.sites[h.registry]? with
  | some site =>
    s.onSocket socket fun id =>
      let (response, log) :=
        answerOn site.app s.machine site.registry id method target rawHeaders
      ⟨.ok (.response response), s, log⟩
  | none => ⟨.ok .done, s, []⟩

/-- Closes a listener. -/
def stepClose (s : Session) (h : ServedListener) : StepResult :=
  let (result, m, log) := h.handle.close s.machine
  ⟨result.map fun _ => .done, { s with machine := m }, log⟩

/-- Closes a resource. -/
def stepCloseRid (s : Session) (rid : Int) : StepResult :=
  let (result, m, t) := s.table.close s.machine rid
  ⟨result.map fun _ => .done, { s with machine := m, table := t }, []⟩

/-- What a step does. -/
def step (s : Session) : SessionStep → StepResult
  | .openListener c => s.stepOpen c
  | .add spec => s.stepAdd spec
  | .serve rid => s.stepServe rid
  | .start r => s.stepStart r
  | .connect handle socket => s.onHandle handle (s.stepConnect socket)
  | .accept handle socket => s.onHandle handle (s.stepAccept socket)
  | .park socket t path => s.onSocket socket (s.stepPark t path)
  | .change socket now => s.onSocket socket (s.stepChange now)
  | .adopt handle rid => s.onHandle handle (s.stepAdopt rid)
  | .request handle socket method target rawHeaders =>
    s.onHandle handle (s.stepRequest socket method target rawHeaders)
  | .close handle => s.onHandle handle s.stepClose
  | .closeRid rid => s.stepCloseRid rid

/-- What steps in a row do. -/
def run (s : Session) : List SessionStep → List StepResult
  | [] => []
  | x :: xs => s.step x :: run (s.step x).session xs

/-- The session after steps in a row. -/
def after (s : Session) : List SessionStep → Session
  | [] => s
  | x :: xs => after (s.step x).session xs

/-- For each listener and stream in memory made so far, whether it is closed. -/
def closed (s : Session) : List Bool := s.inMemory.map fun r => r.isClosed s.machine

end Session

end TargetUri
