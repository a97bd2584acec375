import TargetUri.Server.Start

set_option autoImplicit false

/-!
# Listeners and their addresses

A listener that is opened as it is configured is bound to a socket file when that is its transport,
and to a port when it is not. The address of a server never changes before it is lost, so this still
holds when the listener is served, whatever has happened to the machine in between.

## Main definitions

* `TargetUri.Address.Suits` — an address of the kind that listeners on a transport have.
* `TargetUri.Machine.Precedes` — a machine whose servers another still has.
* `TargetUri.Resource.Suited`, `TargetUri.ResourceTable.Suited`, `TargetUri.ListenProperties.Suited`
  — listeners whose addresses suit them: in a table, and once they are served.

## Main results

* `TargetUri.openListener_spec` — what is opened as configured suits its transport.
* `TargetUri.serveListener_spec` — serving keeps that.
* `TargetUri.startServer_spec` — the listeners of a server suit their transports.
-/

namespace TargetUri

/-! ## Addresses that suit a transport -/

/-- An address of the kind that the ends of connections on a transport have. -/
def Address.Suits (t : StreamType) : Address → Prop
  | .ip _ _ => t ≠ .unix
  | .unix _ => t = .unix

/-- An IP address suits every transport but socket files. -/
@[simp] theorem Address.suits_ip {t : StreamType} {hostname : String} {port : Nat} :
    (Address.ip hostname port).Suits t ↔ t ≠ .unix := Iff.rfl

/-- A socket path suits socket files alone. -/
@[simp] theorem Address.suits_unix {t : StreamType} {path : SocketPath} :
    (Address.unix path).Suits t ↔ t = .unix := Iff.rfl

/-- An address that suits a transport has a port unless the transport is a socket file. -/
theorem Address.Suits.port?_eq_none_iff {t : StreamType} {a : Address} (h : a.Suits t) :
    a.port? = none ↔ t = .unix := by
  cases a with
  | ip hostname port => simpa [port?] using suits_ip.mp h
  | unix path => simpa [port?] using suits_unix.mp h

/-- The peer of a socket, where it can be read, suits the transport that it is read for. -/
theorem Socket.suits_peerAddress? {s : Socket} {t : StreamType} {a : Address}
    (h : s.peerAddress? t = some a) : a.Suits t := by
  have hip : ∀ {host port}, ipAddress? host port = some a → t ≠ .unix → a.Suits t := by
    intro host port hsome ht
    cases host <;> cases port <;> simp only [ipAddress?, reduceCtorEq, Option.some.injEq] at hsome
    rw [← hsome, Address.suits_ip]
    exact ht
  cases t with
  | tcp => exact hip h (by decide)
  | tls => exact hip h (by decide)
  | unix =>
    obtain rfl : Address.unix .unnamed = a := Option.some.inj h
    rfl

/-- A listener with a port exactly when its transport is no socket file. -/
def ListenProperties.Suited (l : ListenProperties) : Prop :=
  l.localPort = none ↔ l.streamType = .unix

/-- The properties of a listener whose address suits its transport. -/
theorem ListenProperties.suited_create {t : StreamType} {a : Address} (h : a.Suits t) :
    (ListenProperties.create t a).Suited := h.port?_eq_none_iff

/-! ## Machines one after the other -/

/-- A machine that may become another: the servers stay, and each keeps its address or loses it. -/
structure Machine.Precedes (m m' : Machine) : Prop where
  /-- no server is removed -/
  length_le : m.servers.length ≤ m'.servers.length
  /-- no server gets another address -/
  address : ∀ id < m.servers.length, ∀ a,
    m'.serverAddress? id = some a → m.serverAddress? id = some a

namespace Machine

variable {m m' m'' : Machine}

/-- Servers that are the same have the same addresses. -/
theorem Precedes.of_servers (h : m'.servers = m.servers) : m.Precedes m' where
  length_le := Nat.le_of_eq (by rw [h])
  address id _ a ha := by rwa [serverAddress?, h] at ha

/-- A machine may become itself. -/
theorem Precedes.refl (m : Machine) : m.Precedes m := .of_servers rfl

/-- What a machine may become may become what that may become. -/
theorem Precedes.trans (h : m.Precedes m') (h' : m'.Precedes m'') : m.Precedes m'' where
  length_le := Nat.le_trans h.length_le h'.length_le
  address id hid a ha :=
    h.address id hid a (h'.address id (Nat.lt_of_lt_of_le hid h.length_le) a ha)

/-- A new server leaves the others as they are. -/
theorem precedes_addServer (m : Machine) (s : Server) : m.Precedes (m.addServer s).2 where
  length_le := by simp [addServer]
  address id hid a ha := by
    rw [serverAddress?, addServer, List.getElem?_append_left hid] at ha
    exact ha

/-- Closing a server leaves the others as they are. -/
theorem precedes_closeServer (m : Machine) (id : Nat) : m.Precedes (m.closeServer id).2 := by
  unfold closeServer
  split
  · exact .refl m
  · split
    · exact .refl m
    · refine ⟨by simp, fun j _ a ha => ?_⟩
      simp only [serverAddress?, List.getElem?_set] at ha ⊢
      split at ha
      · split at ha <;> simp at ha
      · exact ha

end Machine

/-! ## Resources that suit their transports -/

/-- A resource that, if it is a listening server, has an address that suits its transport. -/
def Resource.Suited (m : Machine) : Resource → Prop
  | .server id t => id < m.servers.length ∧ ∀ a, m.serverAddress? id = some a → a.Suits t
  | _ => True

/-- A resource suits its transport also later. -/
theorem Resource.Suited.mono {m m' : Machine} (h : m.Precedes m') {r : Resource}
    (hr : r.Suited m) : r.Suited m' := by
  cases r with
  | server id t =>
    exact ⟨Nat.lt_of_lt_of_le hr.1 h.length_le, fun a ha => hr.2 a (h.address id hr.1 a ha)⟩
  | _ => trivial

/-- Closing a resource leaves the servers that it does not stand for as they are. -/
theorem Resource.precedes_close (m : Machine) (r : Resource) : m.Precedes (r.close m).2 := by
  cases r with
  | memoryListener flag t address => exact .of_servers rfl
  | memoryStream flag t here peer => exact .of_servers rfl
  | foreign flag name members closeFault => cases closeFault <;> exact .of_servers rfl
  | server id t => exact m.precedes_closeServer id
  | socket id t path => exact .of_servers rfl

/-- A description of a server that is made without being opened as it is configured. -/
def Resource.Spec.isServer : Resource.Spec → Bool
  | .server .. => true
  | _ => false

/-- A new resource that is no server suits its transport on any machine, and the servers that there
are stay as they are. -/
theorem Resource.make_spec (m : Machine) {spec : Resource.Spec} (h : spec.isServer = false) :
    m.Precedes (Resource.make m spec).2 ∧ ∀ m', (Resource.make m spec).1.Suited m' := by
  cases spec with
  | server t address => simp [Spec.isServer] at h
  | memoryListener t address => exact ⟨.of_servers rfl, fun _ => trivial⟩
  | memoryStream t here peer => exact ⟨.of_servers rfl, fun _ => trivial⟩
  | other name members closeFault => exact ⟨.of_servers rfl, fun _ => trivial⟩
  | socket t socket path => exact ⟨.of_servers rfl, fun _ => trivial⟩

/-- A table whose listeners suit their transports. -/
def ResourceTable.Suited (m : Machine) (t : ResourceTable) : Prop := ∀ e ∈ t.entries, e.2.Suited m

namespace ResourceTable.Suited

variable {m m' : Machine} {t : ResourceTable}

/-- The table without resources has no listeners. -/
theorem empty (m : Machine) : ResourceTable.Suited m .empty := by
  intro e he
  simp [ResourceTable.empty] at he

/-- The listeners of a table suit their transports also later. -/
theorem mono (h : m.Precedes m') (ht : t.Suited m) : t.Suited m' := fun e he => (ht e he).mono h

/-- A table with one more resource. -/
theorem add (ht : t.Suited m) {r : Resource} (hr : r.Suited m) : (t.add r).2.Suited m := by
  intro e he
  rcases List.mem_append.mp he with he | he
  · exact ht e he
  · rw [List.mem_singleton.mp he]
    exact hr

/-- A table without what was under a number. -/
theorem remove (ht : t.Suited m) (rid : Int) : (t.remove rid).Suited m :=
  fun e he => ht e (List.mem_filter.mp he).1

/-- What is found in a table. -/
theorem find? (ht : t.Suited m) {rid : Int} {r : Resource} (h : t.find? rid = some r) :
    r.Suited m := by
  obtain ⟨e, he, rfl⟩ := Option.map_eq_some_iff.mp h
  exact ht e (List.mem_of_find?_eq_some he)

/-- What is taken from a table, and the table without it. -/
theorem take (ht : t.Suited m) {rid : Int} {guard : Resource → Bool} {expected : Option String}
    {o : Resource × ResourceTable} (h : t.take rid guard expected = .ok o) :
    o.1.Suited m ∧ o.2.Suited m := by
  unfold ResourceTable.take ResourceTable.get at h
  split at h
  · cases h
  · rename_i r hfound
    split at h
    · cases h
      exact ⟨ht.find? hfound, ht.remove rid⟩
    · cases h

end ResourceTable.Suited

/-- Closing a resource of a table leaves the other servers as they are. -/
theorem ResourceTable.precedes_close (m : Machine) (t : ResourceTable) (rid : Int) :
    m.Precedes (t.close m rid).2.1 := by
  unfold close
  split
  · exact .refl m
  · exact Resource.precedes_close m _

/-- Closing a resource of a table leaves resources that suit their transports. -/
theorem ResourceTable.Suited.close {m : Machine} {t : ResourceTable} (ht : t.Suited m) (rid : Int) :
    (t.close m rid).2.2.Suited (t.close m rid).2.1 := by
  refine ResourceTable.Suited.mono (t.precedes_close m rid) ?_
  unfold ResourceTable.close
  split
  · exact ht
  · exact ht.remove rid

/-! ## Opening -/

/-- What may come of opening a listener on a transport. -/
structure Opened (t : StreamType) (m : Machine) (o : Except SystemError Nat × Machine) : Prop where
  /-- the servers that there were are as they were -/
  precedes : m.Precedes o.2
  /-- a server that was opened suits the transport -/
  suited : ∀ id, o.1 = .ok id → (Resource.server id t).Suited o.2

/-- A listener that could not be opened. -/
theorem Opened.error (t : StreamType) (m : Machine) (e : SystemError) : Opened t m (.error e, m) :=
  ⟨.refl m, fun _ h => nomatch h⟩

/-- A listener that was opened as a new server. -/
theorem Opened.addServer {t : StreamType} {m m' : Machine} (hm : m'.servers = m.servers)
    (a : Address) (ha : a.Suits t) (holds : Option Endpoint) :
    Opened t m (.ok (m'.addServer ⟨some a, holds⟩).1, (m'.addServer ⟨some a, holds⟩).2) := by
  refine ⟨.trans (.of_servers hm) (m'.precedes_addServer _), ?_⟩
  rintro id hid
  obtain rfl : m'.servers.length = id := Except.ok.inj hid
  refine ⟨by simp [Machine.addServer], fun a' ha' => ?_⟩
  obtain rfl : a = a' := by simpa [Machine.serverAddress?, Machine.addServer] using ha'
  exact ha

/-- A listener on a port. -/
theorem Machine.opened_listenIp {t : StreamType} (ht : t ≠ .unix) (m : Machine) (hostname : String)
    (port : Nat) : Opened t m (m.listenIp hostname port) := by
  unfold listenIp
  split
  · refine .addServer ?_ _ (Address.suits_ip.mpr ht) _
    rfl
  · split
    · exact .error t m _
    · exact .addServer rfl _ (Address.suits_ip.mpr ht) _

/-- A listener on a socket file. -/
theorem Machine.opened_listenUnix (m : Machine) (path : String) :
    Opened .unix m (m.listenUnix path) := by
  unfold listenUnix
  split
  · exact .error .unix m _
  · exact .error .unix m _
  · split
    · exact .error .unix m _
    · split
      · exact .error .unix m _
      · refine .addServer ?_ _ (Address.suits_unix.mpr rfl) _
        rfl

/-- Removing a stale socket file leaves the servers alone. -/
theorem servers_removeStale {m m' : Machine} {path : String} (h : removeStale m path = .ok m') :
    m'.servers = m.servers := by
  unfold removeStale at h
  split at h <;> cases h <;> rfl

/-- A listener that is opened as it is configured. -/
theorem opened_openServer (m : Machine) (c : ListenerConfig) :
    Opened c.transport m (openServer m c) := by
  cases c with
  | tcp hostname port => exact m.opened_listenIp StreamType.noConfusion hostname.repaired port.toNat
  | tls hostname port certPath keyPath =>
    unfold openServer
    dsimp only
    split
    · exact .error _ m _
    · split
      · exact .error _ m _
      · exact m.opened_listenIp StreamType.noConfusion hostname.repaired port.toNat
  | unix path =>
    unfold openServer
    dsimp only
    split
    · exact .error _ m _
    · rename_i m' hm'
      obtain ⟨hprec, hsuit⟩ := m'.opened_listenUnix (m'.env.expandHome path)
      exact ⟨.trans (.of_servers (servers_removeStale hm')) hprec, hsuit⟩

/-- **A listener that is opened into a table** suits its transport, and so do the others still. -/
theorem openListener_spec {m : Machine} {t : ResourceTable} (ht : t.Suited m) (c : ListenerConfig) :
    m.Precedes (openListener m t c).2.1 ∧
      (openListener m t c).2.2.Suited (openListener m t c).2.1 := by
  obtain ⟨hprec, hsuit⟩ := opened_openServer m c
  unfold openListener
  split
  · rename_i e m' ho
    rw [ho] at hprec
    exact ⟨hprec, ht.mono hprec⟩
  · rename_i id m' ho
    rw [ho] at hprec hsuit
    exact ⟨hprec, (ht.mono hprec).add (hsuit id rfl)⟩

/-! ## Serving -/

/-- A way to take listeners that gives resources that suit their transports, and leaves such, out of
a table of such. -/
def Claim.Suited (claim : Claim) : Prop :=
  ∀ {m t rid o}, t.Suited m → claim t rid = .ok o → o.1.Suited m ∧ o.2.Suited m

/-- Taking listeners from the table. -/
theorem suited_takeListener : Claim.Suited ResourceTable.takeListener := fun ht h => ht.take h

/-- Taking listeners from the table at first, and one and the same resource later. -/
theorem suited_substituteClaim {n k : Nat} {r : Resource} (hr : ∀ m, r.Suited m) :
    Claim.Suited (substituteClaim n r k) := by
  intro m t rid o ht h
  unfold substituteClaim at h
  split at h
  · exact ht.take h
  · cases h
    exact ⟨hr m, ht⟩

/-- A server that is served has the address that it listens on. -/
theorem suited_serveServer {m : Machine} {logger : Logger} {id : Nat} {t : StreamType}
    {h : ServeHandle} (hsuit : (Resource.server id t).Suited m)
    (hserve : (serveServer m logger id t).1 = .ok h) : h.listen.Suited := by
  unfold serveServer at hserve
  split at hserve
  · cases hserve
  · rename_i a ha
    cases hserve
    exact ListenProperties.suited_create (hsuit.2 a ha)

/-- Closing what cannot be used leaves the servers that it does not stand for as they are. -/
theorem precedes_reject {α : Type} (m : Machine) (r : Resource) (f : Fault) :
    m.Precedes (reject (α := α) m r f).2 := by
  have hclose := Resource.precedes_close m r
  unfold reject
  split
  · rename_i ho
    rwa [ho] at hclose
  · rename_i ho
    rwa [ho] at hclose

/-- What cannot be used is never served. -/
theorem reject_ne_ok {α : Type} (m : Machine) (r : Resource) (f : Fault) (a : α) :
    (reject m r f).1 ≠ .ok a := by
  unfold reject
  split <;> exact nofun

/-- **A listener that is served** suits its transport, and so do those that are left. -/
theorem serveListener_spec {claim : Claim} (hclaim : claim.Suited) (logger : Logger) {m : Machine}
    {t : ResourceTable} (ht : t.Suited m) (rid : Int) :
    let e := serveListener claim logger m t rid
    m.Precedes e.machine ∧ e.table.Suited e.machine ∧ ∀ h, e.result = .ok h → h.listen.Suited := by
  unfold serveListener
  split
  · exact ⟨.refl m, ht, fun _ h => nomatch h⟩
  · rename_i id st t' hok
    obtain ⟨hsuit, ht'⟩ := hclaim ht hok
    exact ⟨.refl m, ht', fun _ h => suited_serveServer hsuit h⟩
  · rename_i r t' _ hok
    have hprec := precedes_reject (α := ServeHandle) m r (.unsupportedListener rid r.name)
    exact ⟨hprec, (hclaim ht hok).2.mono hprec, fun h hh => absurd hh (reject_ne_ok m r _ h)⟩

/-- Closing a listener that is served leaves the other servers as they are. -/
theorem ServeHandle.precedes_close (h : ServeHandle) (m : Machine) :
    m.Precedes (h.close m).2.1 := by
  have hclose := m.precedes_closeServer h.server
  unfold close
  split
  · rename_i ho
    rwa [ho] at hclose
  · rename_i ho
    rwa [ho] at hclose

/-! ## Starting -/

/-- Closing listeners leaves the other servers as they are. -/
theorem precedes_closeAll (m : Machine) (handles : List ServeHandle) :
    m.Precedes (closeAll m handles).2.1 := by
  induction handles generalizing m with
  | nil => exact .refl m
  | cons h hs ih => exact (h.precedes_close m).trans (ih _)

/-- Closing what is in a table leaves the other servers as they are. -/
theorem precedes_closeTable (m : Machine) (t : ResourceTable) (entries : List (Nat × Resource)) :
    m.Precedes (closeTable m t entries).2.1 := by
  induction entries generalizing m t with
  | nil => exact .refl m
  | cons e entries ih =>
    have hclose := ResourceTable.precedes_close m t e.1
    unfold closeTable
    split
    · rename_i ho
      rw [ho] at hclose
      exact hclose.trans (ih _ _)
    · rename_i ho
      rwa [ho] at hclose

/-- Undoing a start leaves the other servers as they are, and nothing is served. -/
theorem undo_spec (m : Machine) (t : ResourceTable) (handles : List ServeHandle) (f : Fault) :
    m.Precedes (undo m t handles f).machine ∧ ∀ hs, (undo m t handles f).result ≠ .ok hs := by
  have hall := precedes_closeAll m handles
  unfold undo
  split
  · rename_i ho
    rw [ho] at hall
    exact ⟨hall, nofun⟩
  · rename_i m' log ho
    rw [ho] at hall
    have htable := precedes_closeTable m' t t.entries
    split
    · rename_i ho'
      rw [ho'] at htable
      exact ⟨hall.trans htable, nofun⟩
    · rename_i ho'
      rw [ho'] at htable
      exact ⟨hall.trans htable, nofun⟩

/-- Starting listeners keeps the servers that are there, and what is served in the end suits its
transport.

**Proof sketch.** Induction on the listeners that are still to be started. What one of them leaves
behind, on the machine and in the table, is what the next one starts from. -/
theorem startListeners_spec {claim : Nat → Claim} (hclaim : ∀ n, (claim n).Suited) (logger : Logger)
    {m : Machine} {t : ResourceTable} (ht : t.Suited m) {handles : List ServeHandle}
    (hhandles : ∀ h ∈ handles, h.listen.Suited) (cs : List ListenerConfig) :
    let e := startListeners claim logger m t handles cs
    m.Precedes e.machine ∧ ∀ hs, e.result = .ok hs → ∀ h ∈ hs, h.listen.Suited := by
  induction cs generalizing m t handles with
  | nil =>
    refine ⟨.refl m, ?_⟩
    rintro hs hok
    obtain rfl : handles = hs := Except.ok.inj hok
    exact hhandles
  | cons c cs ih =>
    obtain ⟨hopen, hsuit⟩ := openListener_spec ht c
    unfold startListeners
    split
    · rename_i f m' t' ho
      rw [ho] at hopen
      obtain ⟨hundo, hne⟩ := undo_spec m' t' handles f
      exact ⟨hopen.trans hundo, fun hs hok => absurd hok (hne hs)⟩
    · rename_i rid m' t' ho
      rw [ho] at hopen hsuit
      obtain ⟨hserve, ht', hlisten⟩ := serveListener_spec (hclaim handles.length) logger hsuit rid
      dsimp only
      split
      · obtain ⟨hundo, hne⟩ := undo_spec _ _ handles _
        exact ⟨hopen.trans (hserve.trans hundo), fun hs hok => absurd hok (hne hs)⟩
      · rename_i h hok
        have hmore : ∀ x ∈ handles ++ [h], x.listen.Suited := by
          intro x hx
          rcases List.mem_append.mp hx with hx | hx
          · exact hhandles x hx
          · rw [List.mem_singleton.mp hx]
            exact hlisten h hok
        obtain ⟨hrest, hall⟩ := ih ht' hmore
        exact ⟨hopen.trans (hserve.trans hrest), hall⟩

/-- **The listeners of a server that was started suit their transports.** -/
theorem startServer_spec {claim : Nat → Claim} (hclaim : ∀ n, (claim n).Suited) (logger : Logger)
    (m : Machine) (c : ServerConfig) :
    let e := startServer claim logger m c
    m.Precedes e.machine ∧ ∀ hs, e.result = .ok hs → ∀ h ∈ hs, h.listen.Suited :=
  startListeners_spec hclaim logger (.empty m) (fun _ h => absurd h List.not_mem_nil) c.listeners

end TargetUri
