import TargetUri.Proofs.Machine.Files
import TargetUri.Server.Serve

set_option autoImplicit false

/-!
# What opening listeners does to a machine

Opening a listener either changes nothing, or adds one server, which is bound as the listener is
configured. On a socket file it also puts a socket there, in place of any file. Listeners that are
opened one after the other add up.

## Main definitions

* `TargetUri.ListenerConfig.server` — the server that a configured listener is opened as.
* `TargetUri.Machine.listening` — a machine with one more listener.
* `TargetUri.Opens` — a machine on which listeners have been opened one after the other.
* `TargetUri.Machine.Gained` — a machine with the servers of some listeners besides its own.

## Main results

* `TargetUri.openListener_cases` — opening changes nothing, or adds just the listener.
* `TargetUri.Opens.gained` — what opening several adds.
-/

namespace TargetUri

/-! ## Listeners as they are opened -/

namespace ListenerConfig

/-- The address and port that a listener is configured to listen on, if it is one on a port. -/
def ip? : ListenerConfig → Option (String × Nat)
  | .tcp hostname port => some (hostname.repaired, port.toNat)
  | .tls hostname port _ _ => some (hostname.repaired, port.toNat)
  | .unix _ => none

/-- The port that a listener is configured to listen on; a socket file has none. -/
def port? (l : ListenerConfig) : Option Nat := l.ip?.map (·.2)

/-- The place of the socket file of a listener, if it is one on a socket file. -/
def socketFile? (env : Environment) : ListenerConfig → Option Place
  | .unix path => some (Path.place env.cwd (env.expandHome path.repaired))
  | _ => none

/-- The address that a listener is bound to, when the machine would choose a given port. -/
def address (env : Environment) (assigned : Nat) : ListenerConfig → Address
  | .tcp hostname port => .ip hostname.repaired (if port.toNat = 0 then assigned else port.toNat)
  | .tls hostname port _ _ =>
    .ip hostname.repaired (if port.toNat = 0 then assigned else port.toNat)
  | .unix path => .unix (.text (env.expandHome path.repaired))

/-- What a listener keeps others from listening on, when the machine would choose a given port. -/
def endpoint (env : Environment) (assigned : Nat) : ListenerConfig → Endpoint
  | .tcp hostname port => .port hostname.repaired (if port.toNat = 0 then assigned else port.toNat)
  | .tls hostname port _ _ =>
    .port hostname.repaired (if port.toNat = 0 then assigned else port.toNat)
  | .unix path => .file (Path.place env.cwd (env.expandHome path.repaired))

/-- The server that a listener is opened as, when the machine would choose a given port. -/
def server (env : Environment) (assigned : Nat) (l : ListenerConfig) : Server :=
  ⟨some (l.address env assigned), some (l.endpoint env assigned)⟩

/-- A listener holds a file when that is its socket file. -/
theorem endpoint_eq_file_iff (env : Environment) (assigned : Nat) (l : ListenerConfig)
    (p : Place) : l.endpoint env assigned = .file p ↔ l.socketFile? env = some p := by
  cases l <;> simp [endpoint, socketFile?]

end ListenerConfig

/-- What a machine must have for a listener besides an address that is free: the files that the
listener reads, with a certificate chain and a key that go together, or the directories that lead to
its socket file. -/
def ListenerConfig.Provided (m : Machine) : ListenerConfig → Prop
  | .tcp _ _ => True
  | .tls _ _ certPath keyPath => ∃ cert key,
    readPair m certPath keyPath = .ok (cert, key) ∧ m.pairFault? cert key = none
  | .unix path => m.files.locate m.env.cwd (m.env.expandHome path.repaired) =
    .ok ⟨m.place (m.env.expandHome path.repaired), false⟩

/-- The machine with one more listener. -/
def Machine.listening (m : Machine) (l : ListenerConfig) : Machine :=
  { m with
    servers := m.servers ++ [l.server m.env m.nextPort]
    nextPort := if l.port? = some 0 then m.nextPort + 1 else m.nextPort
    files :=
      match l.socketFile? m.env with
      | some p => m.files.set p .socket
      | none => m.files }

/-- A machine on which nothing keeps a listener from being opened: what it needs is there, nobody
holds its port, and at the place of its socket file there is nothing, or a file that can be removed.
-/
structure Machine.Free (m : Machine) (l : ListenerConfig) : Prop where
  /-- what the listener needs is there -/
  provided : l.Provided m
  /-- the port is not held, unless the machine chooses it -/
  port : ∀ hostname port, l.ip? = some (hostname, port) → port ≠ 0 →
    .port hostname port ∉ m.held
  /-- a file that is in the way can be removed -/
  file : ∀ p, l.socketFile? m.env = some p →
    m.files.node? p = none ∨ ∃ n, m.files.find p = .ok n ∧ n ≠ .directory

/-! ## Opening one listener -/

variable {m m' : Machine} {l : ListenerConfig}

/-- Opening a server on the port of a listener changes nothing, or adds just the listener. -/
theorem listenIp_cases (m : Machine) {hostname : String} {port : Nat}
    (hl : l.ip? = some (hostname, port)) (hprovided : l.Provided m) :
    (∃ e, m.listenIp hostname port = (.error e, m)) ∨
      m.listenIp hostname port = (.ok m.servers.length, m.listening l) ∧ m.Free l := by
  have hport : l.port? = some port := by rw [ListenerConfig.port?, hl, Option.map_some]
  have hfile : l.socketFile? m.env = none := by cases l <;> first | rfl | cases hl
  have hserver : l.server m.env m.nextPort =
      ⟨some (.ip hostname (if port = 0 then m.nextPort else port)),
        some (.port hostname (if port = 0 then m.nextPort else port))⟩ := by
    cases l <;> cases hl <;> rfl
  have hfree : (port ≠ 0 → .port hostname port ∉ m.held) → m.Free l := by
    intro hheld
    refine ⟨hprovided, fun hostname' port' hl' => ?_, fun p hp => nomatch hfile.symm.trans hp⟩
    cases hl.symm.trans hl'
    exact hheld
  unfold Machine.listenIp
  by_cases hzero : port = 0
  · refine .inr ⟨?_, hfree (absurd hzero)⟩
    simp [Machine.addServer, Machine.listening, hserver, hport, hfile, hzero]
  · by_cases hheld : Endpoint.port hostname port ∈ m.held
    · exact .inl ⟨_, (if_neg hzero).trans (if_pos hheld)⟩
    · refine .inr ⟨?_, hfree fun _ => hheld⟩
      simp [Machine.addServer, Machine.listening, hserver, hport, hfile, hzero, hheld]

/-- A socket file is opened where its path leads to a file and nothing is in the way. -/
theorem listenUnix_eq {path : WideString} (hprovided : (ListenerConfig.unix path).Provided m)
    (hnone : m.files.node? (m.place (m.env.expandHome path.repaired)) = none) :
    m.listenUnix (m.env.expandHome path.repaired) =
      (.ok m.servers.length, m.listening (.unix path)) := by
  have hlocate : m.files.locate m.env.cwd (m.env.expandHome path.repaired) =
      .ok ⟨m.place (m.env.expandHome path.repaired), false⟩ := hprovided
  simp only [Machine.listenUnix, hlocate, hnone]
  rfl

/-- Opening a server on a socket file that could be opened there, or is refused, with nothing
changed. -/
theorem listenUnix_cases (m : Machine) (path : WideString) :
    (∃ e, m.listenUnix (m.env.expandHome path.repaired) = (.error e, m)) ∨
      (ListenerConfig.unix path).Provided m ∧
        m.files.node? (m.place (m.env.expandHome path.repaired)) = none := by
  cases hlocate : m.files.locate m.env.cwd (m.env.expandHome path.repaired) with
  | error e =>
    left
    by_cases he : e = .noEntry
    · exact ⟨.accessDenied, by rw [Machine.listenUnix, hlocate, he]⟩
    · refine ⟨e, ?_⟩
      rw [Machine.listenUnix, hlocate]
      cases e <;> first | rfl | exact absurd rfl he
  | ok located =>
    obtain ⟨hplace, -, -⟩ := FileTree.locate_eq_ok hlocate
    obtain ⟨p, slash⟩ := located
    obtain rfl : p = m.place (m.env.expandHome path.repaired) := hplace
    cases hnode : m.files.node? (m.place (m.env.expandHome path.repaired)) with
    | some n => exact .inl ⟨.addressInUse, by simp [Machine.listenUnix, hlocate, hnode]⟩
    | none =>
      cases slash with
      | true => exact .inl ⟨.accessDenied, by simp [Machine.listenUnix, hlocate, hnode]⟩
      | false => exact .inr ⟨hlocate, rfl⟩

/-- A listener over TLS is opened like any on its port when what it needs is there. -/
theorem openServer_tls_of_ok {hostname certPath keyPath : WideString} {port : Port}
    {cert key : Bytes} (hread : readPair m certPath keyPath = .ok (cert, key))
    (hpair : m.pairFault? cert key = none) :
    openServer m (.tls hostname port certPath keyPath) =
      m.listenIp hostname.repaired port.toNat := by
  simp only [openServer, hread, hpair]

/-- A listener on a socket file is opened after what is in the way has been removed. -/
theorem openServer_unix_of_ok {path : WideString}
    (h : removeStale m (m.env.expandHome path.repaired) = .ok m') :
    openServer m (.unix path) = m'.listenUnix (m'.env.expandHome path.repaired) := by
  simp only [openServer, h]

/-- A listener on a socket file is refused when what is in the way cannot be removed. -/
theorem openServer_unix_of_error {path : WideString} {e : SystemError}
    (h : removeStale m (m.env.expandHome path.repaired) = .error e) :
    openServer m (.unix path) = (.error e, m) := by
  simp only [openServer, h]

/-- A listener on a socket file is opened when the file that is in the way can be removed. -/
theorem openServer_of_find {path : WideString} {n : FileNode}
    (hprovided : (ListenerConfig.unix path).Provided m)
    (hfind : m.files.find (m.place (m.env.expandHome path.repaired)) = .ok n)
    (hn : n ≠ .directory) :
    openServer m (.unix path) = (.ok m.servers.length, m.listening (.unix path)) := by
  have hdir := FileTree.node?_ne_directory hfind hn
  have hremove : removeStale m (m.env.expandHome path.repaired) =
      .ok { m with files := m.files.erase (m.place (m.env.expandHome path.repaired)) } := by
    rw [removeStale, FileTree.unlinkPath, FileTree.atPath_eq_ok_iff.mpr
      ⟨hprovided, FileTree.unlink_eq_ok_iff.mpr ⟨n, hfind, hn, rfl⟩⟩]
    rfl
  have hempty : (ListenerConfig.unix path).Provided
      { m with files := m.files.erase (m.place (m.env.expandHome path.repaired)) } :=
    (FileTree.sameDirectories_erase hdir).locate_eq_ok hprovided
  have hlisten := listenUnix_eq hempty
    (FileTree.node?_erase_self _ (FileTree.ne_nil_of_node? hdir))
  refine (openServer_unix_of_ok hremove).trans (hlisten.trans ?_)
  simp only [Machine.listening, ListenerConfig.socketFile?, Machine.place, FileTree.set_erase]

/-- Opening a listener on a socket file changes nothing, or adds just the listener. -/
theorem openServer_unix_cases (m : Machine) (path : WideString) :
    (∃ e, openServer m (.unix path) = (.error e, m)) ∨
      openServer m (.unix path) = (.ok m.servers.length, m.listening (.unix path)) ∧
        m.Free (.unix path) := by
  have hfree : ∀ p, (ListenerConfig.unix path).socketFile? m.env = some p →
      p = m.place (m.env.expandHome path.repaired) := fun p hp => (Option.some.inj hp).symm
  cases hunlink : m.files.unlinkPath m.env.cwd (m.env.expandHome path.repaired) with
  | ok t =>
    obtain ⟨hlocate, hremoved⟩ := FileTree.atPath_eq_ok_iff.mp hunlink
    obtain ⟨n, hfind, hn, -⟩ := FileTree.unlink_eq_ok_iff.mp hremoved
    refine .inr ⟨openServer_of_find hlocate hfind hn, hlocate, nofun, fun p hp =>
      .inr ⟨n, ?_, hn⟩⟩
    rwa [hfree p hp]
  | error e =>
    by_cases he : e = .noEntry
    · have hremove : removeStale m (m.env.expandHome path.repaired) = .ok m := by
        rw [removeStale, hunlink, he]
      rw [openServer_unix_of_ok hremove]
      rcases listenUnix_cases m path with hrefused | ⟨hprovided, hnone⟩
      · exact .inl hrefused
      · refine .inr ⟨listenUnix_eq hprovided hnone, hprovided, nofun, fun p hp => .inl ?_⟩
        rwa [hfree p hp]
    · refine .inl ⟨e, openServer_unix_of_error ?_⟩
      rw [removeStale, hunlink]
      cases e <;> first | rfl | exact absurd rfl he

/-- Opening a server for a listener changes nothing, or adds just the listener to a machine that is
free for it. -/
theorem openServer_cases (m : Machine) (l : ListenerConfig) :
    (∃ e, openServer m l = (.error e, m)) ∨
      openServer m l = (.ok m.servers.length, m.listening l) ∧ m.Free l := by
  cases l with
  | tcp hostname port => exact listenIp_cases m rfl trivial
  | tls hostname port certPath keyPath =>
    cases hread : readPair m certPath keyPath with
    | error e => exact .inl ⟨e, by simp only [openServer, hread]⟩
    | ok pair =>
      obtain ⟨cert, key⟩ := pair
      cases hpair : m.pairFault? cert key with
      | some code => exact .inl ⟨.unusablePair code, by simp only [openServer, hread, hpair]⟩
      | none =>
        rw [openServer_tls_of_ok hread hpair]
        exact listenIp_cases m rfl ⟨cert, key, hread, hpair⟩
  | unix path => exact openServer_unix_cases m path

/-- **Opening a listener** changes nothing, whatever the table, or adds just the listener to a
machine that is free for it. -/
theorem openListener_cases (m : Machine) (l : ListenerConfig) :
    (∃ f, ∀ t, openListener m t l = (.error f, m, t)) ∨
      (∀ t, openListener m t l =
        (.ok t.next, m.listening l, (t.add (.server m.servers.length l.transport)).2)) ∧
        m.Free l := by
  rcases openServer_cases m l with ⟨e, he⟩ | ⟨hok, hfree⟩
  · refine .inl ⟨.system e, fun t => ?_⟩
    rw [openListener, he]
  · refine .inr ⟨fun t => ?_, hfree⟩
    rw [openListener, hok]
    rfl

/-- A listener that has been opened leaves the machine with one more listener. -/
theorem openListener_eq_ok {t t' : ResourceTable} {rid : Nat}
    (h : openListener m t l = (.ok rid, m', t')) : m' = m.listening l ∧ m.Free l := by
  rcases openListener_cases m l with ⟨f, hf⟩ | ⟨hok, hfree⟩
  · cases (hf t).symm.trans h
  · cases (hok t).symm.trans h
    exact ⟨rfl, hfree⟩

/-! ## The machine with one more listener -/

/-- A place that is free for a socket file is no directory. -/
theorem Machine.Free.node?_ne_directory (hfree : m.Free l) {p : Place}
    (hp : l.socketFile? m.env = some p) : m.files.node? p ≠ some .directory := by
  rcases hfree.file p hp with hnone | ⟨n, hfind, hn⟩
  · rw [hnone]
    exact nofun
  · exact FileTree.node?_ne_directory hfind hn

/-- A listener that has been opened has its socket file. -/
theorem Machine.Free.node?_listening (hfree : m.Free l) {p : Place}
    (hp : l.socketFile? m.env = some p) : (m.listening l).files.node? p = some .socket := by
  simp only [listening, hp]
  exact FileTree.node?_set_self _ (FileTree.ne_nil_of_node? (hfree.node?_ne_directory hp)) _

/-- Opening a listener leaves all places but that of its socket file as they are. -/
theorem Machine.node?_listening_of_ne {p : Place} (hp : l.socketFile? m.env ≠ some p) :
    (m.listening l).files.node? p = m.files.node? p := by
  cases hfile : l.socketFile? m.env with
  | none => simp only [listening, hfile]
  | some q =>
    simp only [listening, hfile]
    refine FileTree.node?_set_of_ne _ (fun heq => hp ?_) _
    rw [hfile, heq]

/-- Opening a listener changes no directories. -/
theorem Machine.Free.sameDirectories (hfree : m.Free l) :
    m.files.SameDirectories (m.listening l).files := by
  cases hfile : l.socketFile? m.env with
  | none =>
    simp only [listening, hfile]
    exact .refl _
  | some p =>
    simp only [listening, hfile]
    exact FileTree.sameDirectories_set (hfree.node?_ne_directory hfile) nofun

/-- What opening a listener leaves to be read was there before. -/
theorem Machine.Free.read_of_read_listening (hfree : m.Free l) {p : Place} {content : Bytes}
    (hread : (m.listening l).files.read p = .ok content) : m.files.read p = .ok content := by
  rw [FileTree.read_eq_ok_iff] at hread ⊢
  have hother : l.socketFile? m.env ≠ some p := by
    intro hp
    cases (hfree.node?_listening hp).symm.trans (FileTree.find_eq_ok_iff.mp hread).2
  exact (hfree.sameDirectories.find_eq_ok_iff (m.node?_listening_of_ne hother).symm).mpr hread

/-! ## What listeners need -/

/-- Two files are read when each of them is. -/
theorem readPair_eq_ok_iff {path path' : WideString} {content content' : Bytes} :
    readPair m path path' = .ok (content, content') ↔
      readConfigured m path = .ok content ∧ readConfigured m path' = .ok content' := by
  unfold readPair
  cases readConfigured m path <;> cases readConfigured m path' <;> simp

/-- **What a listener needs** is there on any machine on which paths mean the same, the directories
are the same, and what could be read of regular files still can be. -/
theorem ListenerConfig.Provided.congr (h : l.Provided m) (henv : m'.env = m.env)
    (hpair : m'.pairFault? = m.pairFault?) (hdirectories : m.files.SameDirectories m'.files)
    (hfiles : ∀ p content, m.files.read p = .ok content → m'.files.read p = .ok content) :
    l.Provided m' := by
  have hread : ∀ {path : WideString} {content : Bytes}, readConfigured m path = .ok content →
      readConfigured m' path = .ok content := by
    intro path content hpath
    rw [readConfigured, henv]
    exact hdirectories.readPath_eq_ok (hfiles _ content) hpath
  cases l with
  | tcp hostname port => trivial
  | tls hostname port certPath keyPath =>
    obtain ⟨cert, key, hboth, hfault⟩ := h
    obtain ⟨hcert, hkey⟩ := readPair_eq_ok_iff.mp hboth
    exact ⟨cert, key, readPair_eq_ok_iff.mpr ⟨hread hcert, hread hkey⟩, hpair ▸ hfault⟩
  | unix path =>
    rw [Provided, Machine.place, henv]
    exact hdirectories.locate_eq_ok h

/-- The place of a socket file that its path leads to can be reached. -/
theorem ListenerConfig.Provided.blocked?_eq_none (h : l.Provided m) {p : Place}
    (hp : l.socketFile? m.env = some p) : m.files.blocked? [] p = none := by
  cases l with
  | unix path =>
    obtain rfl := Option.some.inj hp
    exact (FileTree.locate_eq_ok h).2.2
  | _ => cases hp

/-! ## Opening several listeners -/

/-- Listeners that are opened one after the other, each into some table. -/
inductive Opens : Machine → List ListenerConfig → Machine → Prop
  /-- no listener -/
  | nil (m : Machine) : Opens m [] m
  /-- a listener, and others after it -/
  | cons {m m₁ m₂ : Machine} {t t₁ : ResourceTable} {rid : Nat} {l : ListenerConfig}
      {ls : List ListenerConfig} (first : openListener m t l = (.ok rid, m₁, t₁))
      (others : Opens m₁ ls m₂) : Opens m (l :: ls) m₂

/-- The places of the socket files of listeners. -/
def socketFiles (env : Environment) (ls : List ListenerConfig) : List Place :=
  ls.filterMap (·.socketFile? env)

/-- The socket files of a listener and others after it. -/
theorem mem_socketFiles_cons {env : Environment} {ls : List ListenerConfig} {p : Place} :
    p ∈ socketFiles env (l :: ls) ↔ l.socketFile? env = some p ∨ p ∈ socketFiles env ls := by
  simp [socketFiles]

/-- What opening listeners adds to a machine: a server for each of them, in their order, and its
socket file in place of anything that could be removed. All else is as it was. -/
structure Machine.Gained (m : Machine) (ls : List ListenerConfig) (m' : Machine) : Prop where
  /-- paths mean what they meant -/
  env : m'.env = m.env
  /-- the same certificate chains go with the same keys -/
  pairFault? : m'.pairFault? = m.pairFault?
  /-- there is one more server for each listener -/
  length : m'.servers.length = m.servers.length + ls.length
  /-- the servers that there were are as they were -/
  kept : ∀ id < m.servers.length, m'.servers[id]? = m.servers[id]?
  /-- ports are not given out twice -/
  nextPort : m.nextPort ≤ m'.nextPort
  /-- each new server is bound as its listener is configured; for port zero, to a new port -/
  added : ∀ i l, ls[i]? = some l → ∃ assigned, m.nextPort ≤ assigned ∧
    (l.port? = some 0 → assigned < m'.nextPort) ∧
    m'.servers[m.servers.length + i]? = some (l.server m.env assigned)
  /-- the directories are the same -/
  directories : m.files.SameDirectories m'.files
  /-- the socket files are there -/
  sockets : ∀ p ∈ socketFiles m.env ls, m'.files.node? p = some .socket
  /-- what the listeners need was there -/
  provided : ∀ l ∈ ls, l.Provided m
  /-- there was nothing in their places, or a file that could be removed -/
  replaced : ∀ p ∈ socketFiles m.env ls,
    m.files.node? p = none ∨ ∃ n, m.files.find p = .ok n ∧ n ≠ .directory
  /-- what is in other places is what was there -/
  others : ∀ p ∉ socketFiles m.env ls, m'.files.node? p = m.files.node? p

namespace Machine.Gained

variable {ls : List ListenerConfig}

/-- No listener adds nothing. -/
theorem nil (m : Machine) : m.Gained [] m where
  env := rfl
  pairFault? := rfl
  length := rfl
  kept _ _ := rfl
  nextPort := Nat.le_refl _
  added _ _ h := nomatch h
  directories := .refl _
  sockets _ h := absurd h List.not_mem_nil
  provided _ h := absurd h List.not_mem_nil
  replaced _ h := absurd h List.not_mem_nil
  others _ _ := rfl

/-- What a listener adds, and what others add after it. -/
theorem cons (hfree : m.Free l) (h : (m.listening l).Gained ls m') : m.Gained (l :: ls) m' := by
  have hlen : (m.listening l).servers.length = m.servers.length + 1 := by simp [listening]
  have hport : m.nextPort ≤ (m.listening l).nextPort := by
    simp only [listening]
    split <;> omega
  refine
    { env := h.env
      pairFault? := h.pairFault?
      length := ?length
      kept := ?kept
      nextPort := Nat.le_trans hport h.nextPort
      added := ?added
      directories := hfree.sameDirectories.trans h.directories
      sockets := ?sockets
      provided := ?provided
      replaced := ?replaced
      others := ?others }
  case length =>
    rw [h.length, hlen, List.length_cons]
    omega
  case kept =>
    intro id hid
    rw [h.kept id (by omega)]
    exact List.getElem?_append_left hid
  case added =>
    intro i x hx
    cases i with
    | zero =>
      obtain rfl : l = x := Option.some.inj hx
      refine ⟨m.nextPort, Nat.le_refl _, fun hzero => ?_, ?_⟩
      · have hnext : (m.listening l).nextPort = m.nextPort + 1 := if_pos hzero
        have hle := h.nextPort
        omega
      · rw [Nat.add_zero, h.kept _ (by omega)]
        exact List.getElem?_concat_length
    | succ i =>
      obtain ⟨assigned, hle, hlt, hserver⟩ := h.added i x hx
      refine ⟨assigned, Nat.le_trans hport hle, hlt, ?_⟩
      rw [hlen, Nat.add_assoc, Nat.add_comm 1 i] at hserver
      exact hserver
  case sockets =>
    intro p hp
    by_cases hlater : p ∈ socketFiles m.env ls
    · exact h.sockets p hlater
    · rw [h.others p hlater]
      exact hfree.node?_listening ((mem_socketFiles_cons.mp hp).resolve_right hlater)
  case provided =>
    intro x hx
    rcases List.mem_cons.mp hx with rfl | hx
    · exact hfree.provided
    · exact (h.provided x hx).congr rfl rfl hfree.sameDirectories.symm
        fun _ _ => hfree.read_of_read_listening
  case replaced =>
    intro p hp
    by_cases hfirst : l.socketFile? m.env = some p
    · exact hfree.file p hfirst
    · have hnode := m.node?_listening_of_ne hfirst
      have hlater := (mem_socketFiles_cons.mp hp).resolve_left hfirst
      rcases h.replaced p hlater with hnone | ⟨n, hfind, hn⟩
      · exact .inl (hnode.symm.trans hnone)
      · exact .inr ⟨n, (hfree.sameDirectories.find_eq_ok_iff hnode.symm).mpr hfind, hn⟩
  case others =>
    intro p hp
    obtain ⟨hfirst, hlater⟩ := not_or.mp (mt mem_socketFiles_cons.mpr hp)
    rw [h.others p hlater, node?_listening_of_ne hfirst]

end Machine.Gained

/-- **What opening listeners one after the other adds.**

**Proof sketch.** Induction on the run. The machine that the first listener leaves is the one that
the others start from, and a file that they find in their way was there before, or is the socket
file of the first. -/
theorem Opens.gained {ls : List ListenerConfig} (h : Opens m ls m') : m.Gained ls m' := by
  induction h with
  | nil m => exact .nil m
  | @cons m m₁ m₂ t t₁ rid l ls hfirst _ ih =>
    obtain ⟨rfl, hfree⟩ := openListener_eq_ok hfirst
    exact ih.cons hfree

/-- A listener among those that were opened was opened after those before it. -/
theorem Opens.exists_of_append {before after : List ListenerConfig}
    (h : Opens m (before ++ l :: after) m') :
    ∃ m₁ t r m₂ t₂, Opens m before m₁ ∧ openListener m₁ t l = (.ok r, m₂, t₂) := by
  induction before generalizing m with
  | nil =>
    cases h with
    | cons hfirst _ => exact ⟨_, _, _, _, _, .nil _, hfirst⟩
  | cons x before ih =>
    cases h with
    | cons hfirst hothers =>
      obtain ⟨m₁, t, r, m₂, t₂, hopens, hl⟩ := ih hothers
      exact ⟨m₁, t, r, m₂, t₂, .cons hfirst hopens, hl⟩

end TargetUri
