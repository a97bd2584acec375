import TargetUri.Proofs.Server.Closing
import TargetUri.Proofs.Server.Opening

set_option autoImplicit false

/-!
# Starting a server is all or nothing

Either every configured listener is open and served in the end, or the first that cannot be opened
gives the fault and everything that was opened before it is closed again.

## Main definitions

* `TargetUri.ServeHandle.Serves` — a listener that is served as it is configured.
* `TargetUri.Machine.Restored` — a machine on which listeners have been opened and closed again.

## Main results

* `TargetUri.startServer_cases` — the two ways in which starting a server ends.
* `TargetUri.startServer_allOrNone` — what each of them leaves behind.
-/

namespace TargetUri

variable {m m' : Machine} {t : ResourceTable} {l : ListenerConfig} {logger : Logger}

/-! ## From the table to a handle -/

/-- A server that has just been added to a table without resources is taken, and none is left. -/
theorem takeListener_add (ht : t.entries = []) (id : Nat) (st : StreamType) :
    (t.add (.server id st)).2.takeListener (t.add (.server id st)).1 =
      .ok (.server id st, ⟨t.next + 1, []⟩) := by
  have hkind : (Resource.server id st).isListener = true := by cases st <;> rfl
  simp [ResourceTable.takeListener, ResourceTable.take, ResourceTable.get, ResourceTable.add,
    ResourceTable.find?, ResourceTable.remove, ht, hkind, Except.map]

/-- A server that listens is served. -/
theorem exists_serveServer {id : Nat} {a : Address} (h : m.serverAddress? id = some a)
    (logger : Logger) (st : StreamType) :
    ∃ x, (serveServer m logger id st).1 = .ok x := by
  rw [serveServer, h]
  exact ⟨_, rfl⟩

/-- How a server is served only depends on its address. -/
theorem serveServer_congr {id : Nat} (h : m'.servers[id]? = m.servers[id]?) (logger : Logger)
    (st : StreamType) : serveServer m' logger id st = serveServer m logger id st := by
  rw [serveServer, serveServer, Machine.serverAddress?, Machine.serverAddress?, h]

/-- The handle of a server. -/
theorem serveServer_eq_ok {id : Nat} {st : StreamType} {x : ServeHandle}
    (h : (serveServer m logger id st).1 = .ok x) :
    x.server = id ∧ ∃ a, m.serverAddress? id = some a ∧ x.listen = .create st a := by
  unfold serveServer at h
  split at h
  · cases h
  · rename_i a ha
    cases h
    exact ⟨rfl, a, ha, rfl⟩

/-- Handles that serve listeners, in their order, from one server of the machine on. -/
structure Served (logger : Logger) (m : Machine) (first : Nat) (ls : List ListenerConfig)
    (hs : List ServeHandle) : Prop where
  /-- the servers are those from the first one on -/
  servers : hs.map (·.server) = List.range' first ls.length
  /-- each listener is served -/
  handles : ∀ i l, ls[i]? = some l → ∃ x, hs[i]? = some x ∧
    (serveServer m logger (first + i) l.transport).1 = .ok x

namespace Served

/-- No listener is served by no handle. -/
theorem nil (logger : Logger) (m : Machine) (first : Nat) : Served logger m first [] [] where
  servers := rfl
  handles _ _ h := nomatch h

/-- A listener and others after it are served. -/
theorem cons {first : Nat} {ls : List ListenerConfig} {x : ServeHandle} {hs : List ServeHandle}
    (hfirst : (serveServer m logger first l.transport).1 = .ok x)
    (hrest : Served logger m (first + 1) ls hs) : Served logger m first (l :: ls) (x :: hs) := by
  refine ⟨?_, fun i y hy => ?_⟩
  · rw [List.map_cons, hrest.servers, (serveServer_eq_ok hfirst).1, List.length_cons,
      List.range'_succ]
  · cases i with
    | zero =>
      obtain rfl : l = y := Option.some.inj hy
      exact ⟨x, rfl, hfirst⟩
    | succ i =>
      obtain ⟨z, hz, hserve⟩ := hrest.handles i y hy
      refine ⟨z, hz, ?_⟩
      rwa [Nat.add_assoc, Nat.add_comm 1 i] at hserve

end Served

/-! ## The run -/

/-- Records written before others that are written before an outcome. -/
theorem Effect.after_after {α : Type} (log log' : List Record) (e : Effect α) :
    (e.after log').after log = e.after (log ++ log') := by
  simp [after, List.append_assoc]

/-- A listener that is refused ends the run. -/
theorem startListeners_refused {f : Fault} (hf : ∀ t, openListener m t l = (.error f, m, t))
    (claim : Nat → Claim) (logger : Logger) (t : ResourceTable) (handles : List ServeHandle)
    (ls : List ListenerConfig) :
    startListeners claim logger m t handles (l :: ls) = undo m t handles f := by
  rw [startListeners, hf]

/-- A listener that is opened is served, and the run goes on with it. -/
theorem startListeners_opened (ht : t.entries = [])
    (hok : ∀ t, openListener m t l =
      (.ok t.next, m.listening l, (t.add (.server m.servers.length l.transport)).2))
    (logger : Logger) (handles : List ServeHandle) :
    ∃ x log, (serveServer (m.listening l) logger m.servers.length l.transport).1 = .ok x ∧
      ∀ ls, startListeners defaultClaim logger m t handles (l :: ls) =
        (startListeners defaultClaim logger (m.listening l) ⟨t.next + 1, []⟩ (handles ++ [x])
          ls).after log := by
  have haddress : (m.listening l).serverAddress? m.servers.length =
      some (l.address m.env m.nextPort) := by
    simp [Machine.serverAddress?, Machine.listening, ListenerConfig.server]
  obtain ⟨x, hx⟩ := exists_serveServer haddress logger l.transport
  refine ⟨x, (serveServer (m.listening l) logger m.servers.length l.transport).2, hx,
    fun ls => ?_⟩
  have hclaim : defaultClaim handles.length (t.add (.server m.servers.length l.transport)).2
      t.next = _ := takeListener_add ht m.servers.length l.transport
  rw [startListeners, hok]
  simp only [serveListener, hclaim, hx]

/-- **The two ways in which a run over listeners ends**: all are opened and served, or the first
that is refused has everything undone, whatever comes after it.

**Proof sketch.** Induction on the listeners. A listener that is opened is served, and what it
leaves is what the others start from; the handles only serve to be closed in the end. -/
theorem startListeners_cases (logger : Logger) (m : Machine) (ht : t.entries = [])
    (handles : List ServeHandle) (ls : List ListenerConfig) :
    (∃ m' hs next log, Opens m ls m' ∧ Served logger m' m.servers.length ls hs ∧
      startListeners defaultClaim logger m t handles ls =
        ⟨.ok (handles ++ hs), m', ⟨next, []⟩, log⟩) ∨
    ∃ before l after f m' hs next log, ls = before ++ l :: after ∧ Opens m before m' ∧
      Served logger m' m.servers.length before hs ∧
      (∀ t, openListener m' t l = (.error f, m', t)) ∧
      ∀ others, startListeners defaultClaim logger m t handles (before ++ l :: others) =
        (undo m' ⟨next, []⟩ (handles ++ hs) f).after log := by
  induction ls generalizing m t handles with
  | nil =>
    refine .inl ⟨m, [], t.next, [], .nil m, .nil logger m _, ?_⟩
    rw [startListeners, List.append_nil, ← ht]
  | cons l ls ih =>
    rcases openListener_cases m l with ⟨f, hf⟩ | ⟨hok, hfree⟩
    · refine .inr ⟨[], l, ls, f, m, [], t.next, [], rfl, .nil m, .nil logger m _, hf,
        fun others => ?_⟩
      rw [List.nil_append, startListeners_refused hf, List.append_nil, ← ht]
      rfl
    · have hlen : (m.listening l).servers.length = m.servers.length + 1 := by
        simp [Machine.listening]
      obtain ⟨x, log, hx, hstep⟩ := startListeners_opened ht hok logger handles
      -- the first server is still the same once the others are open
      have hserved : ∀ {ls m' hs}, Opens (m.listening l) ls m' →
          Served logger m' (m.listening l).servers.length ls hs →
          Served logger m' m.servers.length (l :: ls) (x :: hs) := by
        intro ls m' hs hopens hserved
        rw [hlen] at hserved
        refine hserved.cons ?_
        rw [serveServer_congr (hopens.gained.kept _ (by omega)), hx]
      rcases ih (m.listening l) (t := ⟨t.next + 1, []⟩) rfl (handles ++ [x]) with
        ⟨m', hs, next, log', hopens, hhandles, hrun⟩ |
        ⟨before, l', after, f, m', hs, next, log', rfl, hopens, hhandles, hf, hrun⟩
      · refine .inl ⟨m', x :: hs, next, log ++ log', .cons (hok t) hopens,
          hserved hopens hhandles, ?_⟩
        rw [hstep, hrun, List.append_assoc]
        rfl
      · refine .inr ⟨l :: before, l', after, f, m', x :: hs, next, log ++ log', rfl,
          .cons (hok t) hopens, hserved hopens hhandles, hf, fun others => ?_⟩
        rw [List.cons_append, hstep, hrun, Effect.after_after, List.append_assoc]
        rfl

/-! ## Undoing -/

/-- What is left of a machine on which listeners have been opened and closed again: their servers
are closed, their socket files are gone, and all else is as it was. -/
structure Machine.Restored (m : Machine) (ls : List ListenerConfig) (m' : Machine) : Prop where
  /-- paths mean what they meant -/
  env : m'.env = m.env
  /-- the same certificate chains go with the same keys -/
  pairFault? : m'.pairFault? = m.pairFault?
  /-- there is one more server for each listener -/
  length : m'.servers.length = m.servers.length + ls.length
  /-- the servers that there were are as they were -/
  kept : ∀ id < m.servers.length, m'.servers[id]? = m.servers[id]?
  /-- the new servers are closed -/
  closed : ∀ i < ls.length, m'.servers[m.servers.length + i]? = some ⟨none, none⟩
  /-- the directories are the same -/
  directories : m.files.SameDirectories m'.files
  /-- nothing is found in the places of the socket files -/
  gone : ∀ p ∈ socketFiles m.env ls, ∀ n, m'.files.find p ≠ .ok n
  /-- what is in other places is what was there -/
  others : ∀ p ∉ socketFiles m.env ls, m'.files.node? p = m.files.node? p

/-- A listener that was opened holds a file when that is its socket file. -/
theorem Machine.Gained.holds?_eq_file_iff {ls : List ListenerConfig} (h : m.Gained ls m') {i : Nat}
    (hi : ls[i]? = some l) {p : Place} :
    m'.holds? (m.servers.length + i) = some (.file p) ↔ l.socketFile? m.env = some p := by
  obtain ⟨assigned, -, -, hserver⟩ := h.added i l hi
  rw [holds?, hserver, ← l.endpoint_eq_file_iff m.env assigned]
  exact Option.some_inj

/-- A machine is restored when what it has gained is lost again. -/
theorem Machine.Gained.restored {m₁ : Machine} {ls : List ListenerConfig} (h : m.Gained ls m₁)
    (hlost : m₁.Lost (List.range' m.servers.length ls.length) m') : m.Restored ls m' := by
  refine
    { env := hlost.env.trans h.env
      pairFault? := hlost.pairFault?.trans h.pairFault?
      length := hlost.length.trans h.length
      kept := ?kept
      closed := fun i hi => hlost.closed _ (List.mem_range'_1.mpr (by omega))
      directories := h.directories.trans hlost.directories
      gone := ?gone
      others := ?others }
  case kept =>
    intro id hid
    have hold : id ∉ List.range' m.servers.length ls.length := by
      rw [List.mem_range'_1]
      omega
    rw [hlost.kept id hold, h.kept id hid]
  case gone =>
    intro p hp n hfind
    obtain ⟨l, hl, hfile⟩ := List.mem_filterMap.mp hp
    obtain ⟨i, hi⟩ := List.mem_iff_getElem?.mp hl
    obtain ⟨hlt, -⟩ := List.getElem?_eq_some_iff.mp hi
    have hid : m.servers.length + i ∈ List.range' m.servers.length ls.length :=
      List.mem_range'_1.mpr (by omega)
    obtain rfl := hlost.gone _ hid p ((h.holds?_eq_file_iff hi).mpr hfile) n hfind
    have hdir := (hlost.directories p).mpr (FileTree.find_eq_ok_iff.mp hfind).2
    cases (h.sockets p hp).symm.trans hdir
  case others =>
    intro p hp
    rw [hlost.others p fun id hid hholds => hp ?_, h.others p hp]
    obtain ⟨hle, hlt⟩ := List.mem_range'_1.mp hid
    obtain ⟨l, hl⟩ : ∃ l, ls[id - m.servers.length]? = some l :=
      ⟨_, List.getElem?_eq_getElem (by omega)⟩
    rw [← Nat.add_sub_cancel' hle] at hholds
    exact List.mem_filterMap.mpr ⟨l, List.mem_of_getElem? hl, (h.holds?_eq_file_iff hl).mp hholds⟩

/-- A restored machine holds what it held. -/
theorem Machine.Restored.held {ls : List ListenerConfig} (h : m.Restored ls m') :
    m'.held = m.held := by
  have hservers : m'.servers = m.servers ++ List.replicate ls.length ⟨none, none⟩ := by
    refine List.ext_getElem? fun id => ?_
    by_cases hold : id < m.servers.length
    · rw [h.kept id hold, List.getElem?_append_left hold]
    · rw [List.getElem?_append_right (by omega)]
      by_cases hnew : id - m.servers.length < ls.length
      · have hclosed := h.closed _ hnew
        rw [Nat.add_sub_cancel' (by omega)] at hclosed
        rw [hclosed, List.getElem?_replicate_of_lt hnew]
      · rw [List.getElem?_eq_none (by rw [h.length]; omega),
          List.getElem?_eq_none (by rw [List.length_replicate]; omega)]
  rw [Machine.held, hservers, List.filterMap_append, List.filterMap_replicate_of_none rfl,
    List.append_nil]
  rfl

/-- Undoing a start whose listeners are open closes them and leaves an empty table. -/
theorem undo_lost {handles : List ServeHandle}
    (hopen : ∀ h ∈ handles, (m.serverAddress? h.server).isSome)
    (hdistinct : (handles.map (·.server)).Nodup) (next : Nat) (f : Fault) :
    ∃ m' log, undo m ⟨next, []⟩ handles f = ⟨.error f, m', ⟨next, []⟩, log⟩ ∧
      m.Lost (handles.map (·.server)) m' := by
  obtain ⟨m', log, hclose, hlost⟩ := closeAll_lost hopen hdistinct
  refine ⟨m', log, ?_, hlost⟩
  simp only [undo, hclose, closeTable]

/-- There is a handle for each listener that is served. -/
theorem Served.length_eq {first : Nat} {ls : List ListenerConfig} {hs : List ServeHandle}
    (h : Served logger m first ls hs) : hs.length = ls.length := by
  rw [← List.length_map (·.server), h.servers, List.length_range']

/-- The server of a listener that is served. -/
theorem Served.server_getElem {first : Nat} {ls : List ListenerConfig} {hs : List ServeHandle}
    (h : Served logger m first ls hs) {i : Nat} (hi : i < hs.length) :
    hs[i].server = first + i := by
  obtain ⟨x, hx, hserve⟩ := h.handles i _ (List.getElem?_eq_getElem (h.length_eq ▸ hi))
  obtain rfl : hs[i] = x := Option.some.inj ((List.getElem?_eq_getElem hi).symm.trans hx)
  exact (serveServer_eq_ok hserve).1

/-- Listeners that are served have servers of their own. -/
theorem Served.nodup {first : Nat} {ls : List ListenerConfig} {hs : List ServeHandle}
    (h : Served logger m first ls hs) : (hs.map (·.server)).Nodup := by
  rw [h.servers]
  exact List.nodup_range'

/-- Listeners that are served are open. -/
theorem Served.isSome {first : Nat} {ls : List ListenerConfig} {hs : List ServeHandle}
    (h : Served logger m first ls hs) :
    ∀ x ∈ hs, (m.serverAddress? x.server).isSome := by
  intro x hx
  obtain ⟨i, hi⟩ := List.mem_iff_getElem?.mp hx
  obtain ⟨hlt, -⟩ := List.getElem?_eq_some_iff.mp hi
  obtain ⟨y, hy, hserve⟩ := h.handles i _ (List.getElem?_eq_getElem (h.length_eq ▸ hlt))
  obtain rfl := Option.some.inj (hi.symm.trans hy)
  obtain ⟨hserver, a, ha, -⟩ := serveServer_eq_ok hserve
  rw [hserver, ha]
  rfl

/-! ## Starting -/

/-- **The two ways in which starting a server ends**: all listeners are open and served, or the
first that is refused gives the fault and those before it are closed again, whatever comes after
it. -/
theorem startServer_cases (logger : Logger) (m : Machine) (c : ServerConfig) :
    (∃ m' hs next log, Opens m c.listeners m' ∧
      Served logger m' m.servers.length c.listeners hs ∧
      startServer defaultClaim logger m c = ⟨.ok hs, m', ⟨next, []⟩, log⟩) ∨
    ∃ before l after f m₁ m' next log, c.listeners = before ++ l :: after ∧ Opens m before m₁ ∧
      (∀ t, openListener m₁ t l = (.error f, m₁, t)) ∧ m.Restored before m' ∧
      ∀ others, startServer defaultClaim logger m { c with listeners := before ++ l :: others } =
        ⟨.error f, m', ⟨next, []⟩, log⟩ := by
  rcases startListeners_cases logger m (t := .empty) rfl [] c.listeners with hall | hfirst
  · exact .inl hall
  · obtain ⟨before, l, after, f, m₁, hs, next, log, hlist, hopens, hserved, hf, hrun⟩ := hfirst
    obtain ⟨m', log', hundo, hlost⟩ := undo_lost hserved.isSome hserved.nodup next f
    rw [hserved.servers] at hlost
    refine .inr ⟨before, l, after, f, m₁, m', next, log ++ log', hlist, hopens, hf,
      hopens.gained.restored hlost, fun others => ?_⟩
    rw [startServer, hrun, List.nil_append, hundo]
    rfl

/-- A server that was started has opened its listeners and serves them. -/
theorem opens_of_startServer {c : ServerConfig} {hs : List ServeHandle}
    (h : (startServer defaultClaim logger m c).result = .ok hs) :
    Opens m c.listeners (startServer defaultClaim logger m c).machine ∧
      Served logger (startServer defaultClaim logger m c).machine m.servers.length c.listeners
        hs := by
  rcases startServer_cases logger m c with ⟨m', hs', next, log, hopens, hserved, hrun⟩ |
    ⟨before, l, after, f, m₁, m', next, log, hlist, -, -, -, hrun⟩
  · rw [hrun] at h ⊢
    obtain rfl : hs' = hs := Except.ok.inj h
    exact ⟨hopens, hserved⟩
  · have hfailed := congrArg Effect.result (hrun after)
    rw [← hlist] at hfailed
    cases hfailed.symm.trans h

-- A certificate that is missing: the socket file of the listener before it is gone again.
example :
    let m := Machine.start ⟨"/root", "/", "/root/.request-authority"⟩ [(["run".toList], .directory)]
    let c : ServerConfig := ⟨[.unix "/run/a.sock", .tls "::1" 443 "/cert" "/key"], .default⟩
    let e := startServer defaultClaim (.create .info []) m c
    e.result.toBool = false ∧ e.machine.files.filePlaces = [] ∧
      e.machine.servers = [⟨none, none⟩] := by decide +kernel

end TargetUri
