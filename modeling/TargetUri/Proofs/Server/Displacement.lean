import TargetUri.Proofs.Server.Starting

set_option autoImplicit false

/-!
# What opening listeners displaces

A port that is held is never taken over. A socket file is: whatever file is in its place is removed
before the listener is opened, be it a regular file or the socket of a listener that is still open.
This is the only way in which opening listeners harms what was there.

## Main definitions

* `TargetUri.Machine.Reaches` — a listener that whoever connects to an endpoint reaches.
* `TargetUri.Machine.Spares` — a machine on which listeners and regular files are as on another.
* `TargetUri.Machine.Occupied` — a place with a regular file or the socket of a listener.

## Main results

* `TargetUri.openListener_spares_iff` — opening a listener spares all but what its socket file
  displaces.
* `TargetUri.openListener_of_reaches_port` — a port that is held is not taken over.
* `TargetUri.startServer_spares_iff` — starting a server spares all but what the socket files of the
  listeners displace that it opens.
* `TargetUri.startedOn_of_startServer` — how the listeners of a started server stand to each other.
* `TargetUri.opening_spares` — all of these together.
-/

namespace TargetUri

/-! ## Listeners that can be reached -/

namespace Machine

/-- Whether whoever connects to an endpoint reaches a server: the server holds the endpoint and, if
that is a socket file, the file is found and no later server has put its own there. -/
def Reaches (m : Machine) (e : Endpoint) (id : Nat) : Prop :=
  m.holds? id = some e ∧ ∀ p, e = .file p →
    m.files.find p = .ok .socket ∧ ∀ later, id < later → m.holds? later ≠ some e

/-- A machine on which all is spared that mattered on another: a listener that was reached still is,
and a regular file that could be read still has its content. -/
structure Spares (m m' : Machine) : Prop where
  /-- listeners stay reached -/
  listeners : ∀ e id, m.Reaches e id → m'.Reaches e id
  /-- regular files keep their content -/
  files : ∀ p content, m.files.read p = .ok content → m'.files.read p = .ok content

/-- A place with something that is not to be displaced: a regular file, or the socket of a listener
that is reached there. -/
def Occupied (m : Machine) (p : Place) : Prop :=
  (∃ content, m.files.read p = .ok content) ∨ ∃ id, m.Reaches (.file p) id

variable {m m' : Machine} {l : ListenerConfig} {ls : List ListenerConfig}

/-- A machine spares itself. -/
theorem Spares.refl (m : Machine) : m.Spares m := ⟨fun _ _ h => h, fun _ _ h => h⟩

/-- A server that holds something is one of the machine's. -/
theorem lt_of_holds? {id : Nat} {e : Endpoint} (h : m.holds? id = some e) :
    id < m.servers.length := by
  refine Nat.lt_of_not_le fun hle => ?_
  rw [holds?, List.getElem?_eq_none hle] at h
  cases h

/-- What a server holds is held on the machine. -/
theorem mem_held_of_holds? {id : Nat} {e : Endpoint} (h : m.holds? id = some e) : e ∈ m.held := by
  obtain ⟨s, hs, hholds⟩ := Option.bind_eq_some_iff.mp h
  exact List.mem_filterMap.mpr ⟨s, List.mem_of_getElem? hs, hholds⟩

/-- At an occupied place a file is found that is no directory. -/
theorem Occupied.find {p : Place} (h : m.Occupied p) :
    ∃ n, m.files.find p = .ok n ∧ n ≠ .directory := by
  rcases h with ⟨content, hread⟩ | ⟨id, -, hfile⟩
  · exact ⟨_, FileTree.read_eq_ok_iff.mp hread, nofun⟩
  · exact ⟨_, (hfile p rfl).1, nofun⟩

/-! ## What a change of the machine displaces -/

/-- A change of the machine that only concerns some places: the servers that there were are as they
were, the new ones hold no other socket files, and other places are as they were. What it leaves in
the places that it concerns is at most the socket of a new server. -/
structure Takes (m : Machine) (ps : List Place) (m' : Machine) : Prop where
  /-- the servers that there were hold what they held -/
  kept : ∀ id < m.servers.length, m'.holds? id = m.holds? id
  /-- new servers hold none but the places that are taken -/
  added : ∀ id, m.servers.length ≤ id → ∀ p ∉ ps, m'.holds? id ≠ some (.file p)
  /-- the directories are the same -/
  directories : m.files.SameDirectories m'.files
  /-- what is in other places is what was there -/
  others : ∀ p ∉ ps, m'.files.node? p = m.files.node? p
  /-- what is found in a place that is taken is the socket of a new server -/
  taken : ∀ p ∈ ps, ∀ n, m'.files.find p = .ok n →
    n = .socket ∧ ∃ id, m.servers.length ≤ id ∧ m'.holds? id = some (.file p)

/-- **A change that takes some places** spares all just when none of them was occupied. -/
theorem Takes.spares_iff {ps : List Place} (h : m.Takes ps m') :
    m.Spares m' ↔ ∀ p ∈ ps, ¬m.Occupied p := by
  have hfind : ∀ {p}, p ∉ ps → ∀ {n}, m.files.find p = .ok n ↔ m'.files.find p = .ok n :=
    fun hp => h.directories.find_eq_ok_iff (h.others _ hp).symm
  constructor
  · rintro hspares p hp (⟨content, hread⟩ | ⟨id, hreach⟩)
    · have hread' := hspares.files p content hread
      cases (h.taken p hp _ (FileTree.read_eq_ok_iff.mp hread')).1
    · obtain ⟨hholds, hfile⟩ := hspares.listeners _ id hreach
      obtain ⟨hsocket, hlast⟩ := hfile p rfl
      obtain ⟨-, later, hle, hlater⟩ := h.taken p hp _ hsocket
      exact hlast later (Nat.lt_of_lt_of_le (lt_of_holds? hreach.1) hle) hlater
  · intro hfree
    refine ⟨fun e id hreach => ?_, fun p content hread => ?_⟩
    · have hid := lt_of_holds? hreach.1
      refine ⟨(h.kept id hid).trans hreach.1, ?_⟩
      rintro p rfl
      obtain ⟨hsocket, hlast⟩ := hreach.2 p rfl
      have hp : p ∉ ps := fun hp => hfree p hp (.inr ⟨id, hreach⟩)
      refine ⟨(hfind hp).mp hsocket, fun later hlt => ?_⟩
      by_cases hold : later < m.servers.length
      · rw [h.kept later hold]
        exact hlast later hlt
      · exact h.added later (Nat.le_of_not_lt hold) p hp
    · have hp : p ∉ ps := fun hp => hfree p hp (.inl ⟨content, hread⟩)
      rw [FileTree.read_eq_ok_iff] at hread ⊢
      exact (hfind hp).mp hread

/-- A new server that holds something is that of one of the listeners. -/
theorem Gained.exists_of_holds? (h : m.Gained ls m') {id : Nat} (hid : m.servers.length ≤ id)
    {e : Endpoint} (hholds : m'.holds? id = some e) :
    ∃ i l, id = m.servers.length + i ∧ ls[i]? = some l := by
  have hlt := lt_of_holds? hholds
  rw [h.length] at hlt
  exact ⟨id - m.servers.length, _, by omega, List.getElem?_eq_getElem (by omega)⟩

/-- Listeners that are opened take the places of their socket files. -/
theorem Gained.takes (h : m.Gained ls m') : m.Takes (socketFiles m.env ls) m' where
  kept id hid := by rw [holds?, holds?, h.kept id hid]
  added id hid p hp hholds := by
    obtain ⟨i, l, rfl, hi⟩ := h.exists_of_holds? hid hholds
    exact hp (List.mem_filterMap.mpr
      ⟨l, List.mem_of_getElem? hi, (h.holds?_eq_file_iff hi).mp hholds⟩)
  directories := h.directories
  others := h.others
  taken p hp n hfind := by
    obtain ⟨l, hl, hfile⟩ := List.mem_filterMap.mp hp
    obtain ⟨i, hi⟩ := List.mem_iff_getElem?.mp hl
    have hnode := (FileTree.find_eq_ok_iff.mp hfind).2
    refine ⟨Option.some.inj (hnode.symm.trans (h.sockets p hp)), m.servers.length + i,
      Nat.le_add_right _ _, (h.holds?_eq_file_iff hi).mpr hfile⟩

/-- Listeners that are opened and closed again have taken the places of their socket files. -/
theorem Restored.takes (h : m.Restored ls m') : m.Takes (socketFiles m.env ls) m' where
  kept id hid := by rw [holds?, holds?, h.kept id hid]
  added id hid p _ hholds := by
    have hlt := lt_of_holds? hholds
    rw [h.length] at hlt
    have hclosed := h.closed (id - m.servers.length) (by omega)
    rw [Nat.add_sub_cancel' hid] at hclosed
    rw [holds?, hclosed] at hholds
    cases hholds
  directories := h.directories
  others := h.others
  taken p hp n hfind := absurd hfind (h.gone p hp n)

end Machine

variable {m m' : Machine} {l : ListenerConfig} {ls : List ListenerConfig}

/-! ## Opening a listener -/

/-- A listener is opened although its socket file takes an occupied place, when its path leads
there. -/
theorem openListener_of_occupied {p : Place} (hp : l.socketFile? m.env = some p)
    (hprovided : l.Provided m) (hoccupied : m.Occupied p) (t : ResourceTable) :
    (openListener m t l).1 = .ok t.next := by
  obtain ⟨n, hfind, hn⟩ := hoccupied.find
  cases l with
  | unix path =>
    obtain rfl : m.place (m.env.expandHome path.repaired) = p := Option.some.inj hp
    rw [openListener, openServer_of_find hprovided hfind hn]
    rfl
  | _ => cases hp

/-- **Opening a listener spares listeners and regular files** just when its socket file, if it has
one and its path leads there, takes no occupied place. -/
theorem openListener_spares_iff (m : Machine) (t : ResourceTable) (l : ListenerConfig) :
    m.Spares (openListener m t l).2.1 ↔
      ∀ p, l.socketFile? m.env = some p → l.Provided m → ¬m.Occupied p := by
  rcases openListener_cases m l with ⟨f, hf⟩ | ⟨hok, hfree⟩
  · rw [hf]
    refine iff_of_true (.refl m) fun p hp hprovided hoccupied => ?_
    have hopened := openListener_of_occupied hp hprovided hoccupied t
    rw [hf] at hopened
    cases hopened
  · have hgained := (Opens.cons (hok t) (.nil _)).gained
    have hmem : ∀ p, p ∈ socketFiles m.env [l] ↔ l.socketFile? m.env = some p :=
      fun p => by simp [socketFiles]
    rw [hok, hgained.takes.spares_iff]
    simp only [hmem, hfree.provided, true_implies]

/-- The files that a listener reads before it is opened. -/
def ListenerConfig.reads : ListenerConfig → List WideString
  | .tls _ _ certPath keyPath => [certPath, keyPath]
  | _ => []

/-- Why a listener can be refused for what it reads before it is opened. -/
inductive ListenerConfig.RefusedFor (m : Machine) (l : ListenerConfig) : SystemError → Prop
  /-- a file cannot be read -/
  | unreadable {path : WideString} {e : SystemError} (hpath : path ∈ l.reads)
      (hread : readConfigured m path = .error e) : RefusedFor m l e
  /-- a certificate chain and a key do not go together -/
  | unusable {certPath keyPath : WideString} {cert key : Bytes} {code : String}
      (hreads : l.reads = [certPath, keyPath]) (hcert : readConfigured m certPath = .ok cert)
      (hkey : readConfigured m keyPath = .ok key) (hpair : m.pairFault? cert key = some code) :
      RefusedFor m l (.unusablePair code)

/-- Of two files one of which cannot be read, one gives the fault. -/
theorem readPair_eq_error {path path' : WideString} {e : SystemError}
    (h : readPair m path path' = .error e) :
    readConfigured m path = .error e ∨ readConfigured m path' = .error e := by
  unfold readPair at h
  cases hfirst : readConfigured m path <;> cases hsecond : readConfigured m path' <;>
    simp only [hfirst, hsecond, Except.error.injEq, reduceCtorEq] at h
  · split at h
    · exact .inr (congrArg Except.error h)
    · exact .inl (congrArg Except.error h)
  · exact .inl (congrArg Except.error h)
  · exact .inr (congrArg Except.error h)

/-- **A port that is held is not taken over**: a listener on it is refused and nothing is changed.
The fault says that the address is in use, unless what the listener reads first gives another. -/
theorem openListener_of_reaches_port {hostname : String} {port id : Nat}
    (hl : l.ip? = some (hostname, port)) (hport : port ≠ 0)
    (hreach : m.Reaches (.port hostname port) id) (t : ResourceTable) :
    ∃ e, openListener m t l = (.error (.system e), m, t) ∧
      (e = .addressInUse ∨ l.RefusedFor m e) := by
  have hrefused : m.listenIp hostname port = (.error .addressInUse, m) :=
    (if_neg hport).trans (if_pos (Machine.mem_held_of_holds? hreach.1))
  have hserver : ∃ e, openServer m l = (.error e, m) ∧ (e = .addressInUse ∨ l.RefusedFor m e) := by
    cases l with
    | tcp hostname' port' =>
      cases hl
      exact ⟨.addressInUse, hrefused, .inl rfl⟩
    | tls hostname' port' certPath keyPath =>
      cases hl
      cases hread : readPair m certPath keyPath with
      | error e =>
        refine ⟨e, by simp only [openServer, hread], .inr ?_⟩
        rcases readPair_eq_error hread with hcert | hkey
        · exact .unreadable List.mem_cons_self hcert
        · exact .unreadable (List.mem_cons_of_mem _ List.mem_cons_self) hkey
      | ok pair =>
        obtain ⟨cert, key⟩ := pair
        obtain ⟨hcert, hkey⟩ := readPair_eq_ok_iff.mp hread
        cases hpair : m.pairFault? cert key with
        | some code =>
          refine ⟨.unusablePair code, by simp only [openServer, hread, hpair], .inr ?_⟩
          exact .unusable rfl hcert hkey hpair
        | none =>
          rw [openServer_tls_of_ok hread hpair]
          exact ⟨.addressInUse, hrefused, .inl rfl⟩
    | unix path => cases hl
  obtain ⟨e, hopen, he⟩ := hserver
  exact ⟨e, by rw [openListener, hopen], he⟩

/-! ## Opening several listeners -/

/-- Whether no listener after one, given by its number, is on a socket file. -/
def LastOn (env : Environment) (ls : List ListenerConfig) (i : Nat) (p : Place) : Prop :=
  ∀ (j : Nat) (l : ListenerConfig), i < j → ls[j]? = some l → l.socketFile? env ≠ some p

/-- **A listener among several that were opened** is reached in the end just when it is no socket
file, or is one in a place that no later listener has taken. -/
theorem Machine.Gained.reaches_iff (h : m.Gained ls m') {i : Nat} (hi : ls[i]? = some l) :
    (∃ e, m'.Reaches e (m.servers.length + i)) ↔
      ∀ p, l.socketFile? m.env = some p → LastOn m.env ls i p := by
  constructor
  · rintro ⟨e, hholds, hfile⟩ p hp
    have hsame := hholds.symm.trans ((h.holds?_eq_file_iff hi).mpr hp)
    obtain ⟨-, hlast⟩ := hfile p (Option.some.inj hsame)
    intro j l' hj hl' hp'
    refine hlast (m.servers.length + j) (by omega) ?_
    rw [(h.holds?_eq_file_iff hl').mpr hp', Option.some.inj hsame]
  · intro hlast
    obtain ⟨assigned, -, -, hserver⟩ := h.added i l hi
    have hholds : m'.holds? (m.servers.length + i) = some (l.endpoint m.env assigned) := by
      rw [holds?, hserver]
      rfl
    refine ⟨l.endpoint m.env assigned, hholds, fun p hp => ?_⟩
    have hsocket := (l.endpoint_eq_file_iff m.env assigned p).mp hp
    have hway := (h.provided l (List.mem_of_getElem? hi)).blocked?_eq_none hsocket
    have hnone := hlast p hsocket
    refine ⟨FileTree.find_eq_ok_iff.mpr ⟨?_, ?_⟩, fun later hlt hlater => ?_⟩
    · exact (h.directories.blocked?_eq_none_iff p).mp hway
    · exact h.sockets p (List.mem_filterMap.mpr ⟨l, List.mem_of_getElem? hi, hsocket⟩)
    · rw [hp] at hlater
      obtain ⟨j, l', rfl, hj⟩ := h.exists_of_holds? (by omega) hlater
      exact hnone j l' (by omega) hj ((h.holds?_eq_file_iff hj).mp hlater)

/-- A listener among several that were opened is not on a port that was held before, nor on one that
a listener before it is on. -/
theorem Opens.port_free {before after : List ListenerConfig}
    (h : Opens m (before ++ l :: after) m') {hostname : String} {port : Nat}
    (hl : l.ip? = some (hostname, port)) (hport : port ≠ 0) :
    (∀ id, ¬m.Reaches (.port hostname port) id) ∧
      ∀ l' ∈ before, l'.ip? ≠ some (hostname, port) := by
  obtain ⟨m₁, t, r, m₂, t₂, hopens, hopened⟩ := h.exists_of_append
  have hfree : ∀ id, m₁.holds? id ≠ some (.port hostname port) := by
    intro id hholds
    obtain ⟨e, hrefused, -⟩ := openListener_of_reaches_port hl hport ⟨hholds, nofun⟩ t
    cases hopened.symm.trans hrefused
  refine ⟨fun id hreach => hfree id ?_, fun l' hl' hsame => ?_⟩
  · rw [hopens.gained.takes.kept id (Machine.lt_of_holds? hreach.1)]
    exact hreach.1
  · obtain ⟨i, hi⟩ := List.mem_iff_getElem?.mp hl'
    obtain ⟨assigned, -, -, hserver⟩ := hopens.gained.added i l' hi
    refine hfree (m.servers.length + i) ?_
    have hendpoint : l'.endpoint m.env assigned = .port hostname port := by
      cases l' <;> cases hsame <;> simp [ListenerConfig.endpoint, hport]
    rw [Machine.holds?, hserver, ← hendpoint]
    rfl

/-! ## Starting a server -/

/-- **Starting a server spares listeners and regular files** just when none of the listeners that it
opens takes an occupied place by its socket file. It opens all, or those before the first that is
refused. -/
theorem startServer_spares_iff (logger : Logger) (m : Machine) (c : ServerConfig) :
    let e := startServer defaultClaim logger m c
    ∃ opened m₁, Opens m opened m₁ ∧
      (match e.result with
        | .ok _ => opened = c.listeners
        | .error f => ∃ l after, c.listeners = opened ++ l :: after ∧
            ∀ t, openListener m₁ t l = (.error f, m₁, t)) ∧
      (m.Spares e.machine ↔ ∀ p ∈ socketFiles m.env opened, ¬m.Occupied p) := by
  intro e
  rcases startServer_cases logger m c with ⟨m', hs, next, log, hopens, -, hrun⟩ |
    ⟨before, l, after, f, m₁, m', next, log, hlist, hopens, hf, hrestored, hrun⟩
  · have he : e = ⟨.ok hs, m', ⟨next, []⟩, log⟩ := hrun
    rw [he]
    exact ⟨c.listeners, m', hopens, rfl, hopens.gained.takes.spares_iff⟩
  · have he : e = ⟨.error f, m', ⟨next, []⟩, log⟩ := by
      rw [← hrun after, ← hlist]
    rw [he]
    exact ⟨before, m₁, hopens, ⟨l, after, hlist, hf⟩, hrestored.takes.spares_iff⟩

/-- How the listeners of a server that was started stand to each other and to what was there. -/
structure StartedOn (m : Machine) (ls : List ListenerConfig) (hs : List ServeHandle)
    (m' : Machine) : Prop where
  /-- a listener is reached in the end just when it is no socket file, or is one in a place that no
  later listener has taken -/
  reached : ∀ (i : Nat) (l : ListenerConfig) (x : ServeHandle), ls[i]? = some l → hs[i]? = some x →
    ((∃ e, m'.Reaches e x.server) ↔ ∀ p, l.socketFile? m.env = some p → LastOn m.env ls i p)
  /-- a listener is not on a port that was held before, nor on that of a listener before it -/
  ports : ∀ (before : List ListenerConfig) (l : ListenerConfig) (after : List ListenerConfig),
    ls = before ++ l :: after → ∀ hostname port, l.ip? = some (hostname, port) → port ≠ 0 →
      (∀ id, ¬m.Reaches (.port hostname port) id) ∧
        ∀ l' ∈ before, l'.ip? ≠ some (hostname, port)

/-- The listeners of a server that was started take socket files from each other, but no ports. -/
theorem startedOn_of_startServer {logger : Logger} {c : ServerConfig} {hs : List ServeHandle}
    (h : (startServer defaultClaim logger m c).result = .ok hs) :
    StartedOn m c.listeners hs (startServer defaultClaim logger m c).machine := by
  obtain ⟨hopens, hserved⟩ := opens_of_startServer h
  refine ⟨fun i l x hl hx => ?_, fun before l after hlist hostname port hl hport => ?_⟩
  · obtain ⟨y, hy, hserve⟩ := hserved.handles i l hl
    obtain rfl := Option.some.inj (hx.symm.trans hy)
    rw [(serveServer_eq_ok hserve).1]
    exact hopens.gained.reaches_iff hl
  · rw [hlist] at hopens
    exact hopens.port_free hl hport

/-- **What opening listeners displaces, and what it does not.**

* Opening a listener spares all other listeners and all regular files just when its socket file, if
  it has one and its path leads there, takes no place with a regular file or the socket of a
  listener that is reached.
* On such a place it is opened all the same.
* On a port that is held it is refused, and nothing is changed. The fault says so, unless a file that
  the listener reads first cannot be read, or its certificate chain and key do not go together.
* Starting a server spares all just when none of the listeners that it opens takes such a place.
* The listeners of a server that was started take socket files from each other, but no ports. -/
theorem opening_spares (logger : Logger) (m : Machine) :
    (∀ (t : ResourceTable) (l : ListenerConfig), m.Spares (openListener m t l).2.1 ↔
      ∀ p, l.socketFile? m.env = some p → l.Provided m → ¬m.Occupied p) ∧
    (∀ (t : ResourceTable) (l : ListenerConfig) (p : Place), l.socketFile? m.env = some p →
      l.Provided m → m.Occupied p → (openListener m t l).1 = .ok t.next) ∧
    (∀ (t : ResourceTable) (l : ListenerConfig) (hostname : String) (port id : Nat),
      l.ip? = some (hostname, port) → port ≠ 0 → m.Reaches (.port hostname port) id →
      ∃ e, openListener m t l = (.error (.system e), m, t) ∧
        (e = .addressInUse ∨ l.RefusedFor m e)) ∧
    ∀ c : ServerConfig,
      let e := startServer defaultClaim logger m c
      (∃ opened m₁, Opens m opened m₁ ∧
        (match e.result with
          | .ok _ => opened = c.listeners
          | .error f => ∃ l after, c.listeners = opened ++ l :: after ∧
              ∀ t, openListener m₁ t l = (.error f, m₁, t)) ∧
        (m.Spares e.machine ↔ ∀ p ∈ socketFiles m.env opened, ¬m.Occupied p)) ∧
      ∀ hs, e.result = .ok hs → StartedOn m c.listeners hs e.machine := by
  refine ⟨openListener_spares_iff m, fun t l p hp hprovided hoccupied => ?_,
    fun t l hostname port id hl hport hreach => ?_, fun c => ⟨?_, fun hs h => ?_⟩⟩
  · exact openListener_of_occupied hp hprovided hoccupied t
  · exact openListener_of_reaches_port hl hport hreach t
  · exact startServer_spares_iff logger m c
  · exact startedOn_of_startServer h

/-- A port that a listener is on is refused, a place with a regular file is not, and two listeners
on one socket file are started one after the other. -/
theorem opening_spares_port_alone :
    let logger := Logger.create .info []
    let env : Environment := ⟨"/root", "/", "/root/.request-authority"⟩
    let p : Place := ["run".toList, "a.sock".toList]
    let tcp : ListenerConfig := .tcp "127.0.0.1" 8080
    let unix : ListenerConfig := .unix "/run/a.sock"
    let run : FileTree := [(["run".toList], .directory)]
    let held := (openListener (.start env run) .empty tcp).2.1
    let occupied := Machine.start env ((p, .file [1]) :: run)
    let twice : ServerConfig := ⟨[unix, unix], .default⟩
    (held.Reaches (.port "127.0.0.1" 8080) 0 ∧
      ∃ e, openListener held .empty tcp = (.error (.system e), held, .empty) ∧
        (e = .addressInUse ∨ tcp.RefusedFor held e)) ∧
    (occupied.Occupied p ∧ (openListener occupied .empty unix).1 = .ok 0) ∧
    ∃ hs, (startServer defaultClaim logger (.start env run) twice).result = .ok hs ∧
      StartedOn (.start env run) twice.listeners hs
        (startServer defaultClaim logger (.start env run) twice).machine := by
  intro logger env p tcp unix run held occupied twice
  have hreach : held.Reaches (.port "127.0.0.1" 8080) 0 := ⟨by decide +kernel, nofun⟩
  have hfile : occupied.Occupied p := .inl ⟨[1], rfl⟩
  have hplace : unix.socketFile? occupied.env = some p := by decide +kernel
  have hprovided : unix.Provided occupied := by
    rw [ListenerConfig.Provided]
    decide +kernel
  have hok : (startServer defaultClaim logger (.start env run) twice).result.toBool = true := by
    decide +kernel
  obtain ⟨-, -, hport, -⟩ := opening_spares logger held
  obtain ⟨-, hopen, -, -⟩ := opening_spares logger occupied
  refine ⟨⟨hreach, ?_⟩, ⟨hfile, ?_⟩, ?_⟩
  · exact hport .empty tcp "127.0.0.1" 8080 0 rfl (by decide) hreach
  · exact hopen .empty unix p hplace hprovided hfile
  · cases hresult : (startServer defaultClaim logger (.start env run) twice).result with
    | error f =>
      rw [hresult] at hok
      cases hok
    | ok hs =>
      exact ⟨hs, rfl, ((opening_spares logger (.start env run)).2.2.2 twice).2 hs hresult⟩

/-- A listener that is open on a socket file, and is reached there, is not reached any more once
another has been opened on the same file; and a regular file is lost to a listener on its place. -/
theorem openListener_displaces :
    let env : Environment := ⟨"/root", "/", "/root/.request-authority"⟩
    let p : Place := ["run".toList, "a.sock".toList]
    let l : ListenerConfig := .unix "/run/a.sock"
    let first := openListener (.start env [(["run".toList], .directory)]) .empty l
    let second := openListener first.2.1 first.2.2 l
    let m := Machine.start env [(["run".toList], .directory), (p, .file [1])]
    (first.2.1.Reaches (.file p) 0 ∧ second.1 = .ok 1 ∧ ¬second.2.1.Reaches (.file p) 0) ∧
      m.files.node? p = some (.file [1]) ∧
      (openListener m .empty l).2.1.files.node? p = some .socket := by
  intro env p l first second m
  have hholds : first.2.1.holds? 0 = some (.file p) := by decide +kernel
  have hlength : first.2.1.servers.length = 1 := by decide +kernel
  have hway : first.2.1.files.blocked? [] p = none := by decide +kernel
  have hsocket : first.2.1.files.node? p = some .socket := by decide +kernel
  have hreach : first.2.1.Reaches (.file p) 0 := by
    refine ⟨hholds, fun q hq => ?_⟩
    obtain rfl : p = q := Endpoint.file.inj hq
    refine ⟨FileTree.find_eq_ok_iff.mpr ⟨hway, hsocket⟩, fun later hlt hlater => ?_⟩
    have hle := Machine.lt_of_holds? hlater
    omega
  have henv : l.socketFile? first.2.1.env = some p := by decide +kernel
  have hprovided : l.Provided first.2.1 := by
    rw [ListenerConfig.Provided]
    decide +kernel
  have hnext : first.2.2.next = 1 := by decide +kernel
  have hlater : second.2.1.holds? 1 = some (.file p) := by decide +kernel
  refine ⟨⟨hreach, ?_, fun hagain => ?_⟩, by decide +kernel, by decide +kernel⟩
  · rw [← hnext]
    exact openListener_of_occupied henv hprovided (.inr ⟨0, hreach⟩) first.2.2
  · exact (hagain.2 p rfl).2 1 (by decide) hlater

end TargetUri
