import TargetUri.Proofs.Server.Displacement

set_option autoImplicit false

/-!
# Starting on addresses that are free

Listeners whose addresses are pairwise different and free can all be opened, when what they need is
there. Then each holds its own address, and is reached on it.

## Main definitions

* `TargetUri.endpoints` — what listeners hold that are opened one after the other.
* `TargetUri.Machine.Vacant` — an address that is free.
* `TargetUri.Machine.FreeFor` — a machine on which the addresses of listeners are free.

## Main results

* `TargetUri.Opens.holds?_eq` — who holds what once listeners have been opened.
* `TargetUri.Machine.FreeFor.reaches` — each listener is reached on its own address.
* `TargetUri.exists_startServer_eq_ok` — starting a server on free addresses succeeds.

## Design

The address of a listener on port zero is the one with the port that the machine gives it, so it
depends on the listeners before it.
-/

namespace TargetUri

/-! ## The addresses of listeners -/

/-- What listeners hold that are opened one after the other, when the machine would choose a given
port next. -/
def endpoints (env : Environment) : Nat → List ListenerConfig → List Endpoint
  | _, [] => []
  | next, l :: ls =>
    l.endpoint env next :: endpoints env (if l.port? = some 0 then next + 1 else next) ls

section Endpoints

variable {env : Environment} {next : Nat} {ls : List ListenerConfig} {l : ListenerConfig}

/-- Each listener holds one thing. -/
theorem length_endpoints (env : Environment) (next : Nat) (ls : List ListenerConfig) :
    (endpoints env next ls).length = ls.length := by
  induction ls generalizing next with
  | nil => rfl
  | cons l ls ih => rw [endpoints, List.length_cons, List.length_cons, ih]

/-- What a listener holds only depends on the port that the machine would choose when it is on port
zero. -/
theorem ListenerConfig.endpoint_congr (h : l.port? ≠ some 0) (env : Environment)
    (next next' : Nat) : l.endpoint env next = l.endpoint env next' := by
  have hport : ∀ port, some port ≠ some 0 → port ≠ 0 := fun port hne hzero => hne (hzero ▸ rfl)
  cases l with
  | tcp hostname port => simp [endpoint, hport port.toNat h]
  | tls hostname port certPath keyPath => simp [endpoint, hport port.toNat h]
  | unix path => rfl

/-- What a listener holds that is not on port zero is among what the listeners hold. -/
theorem endpoint_mem_endpoints (hl : l ∈ ls) (hport : l.port? ≠ some 0) (next' : Nat) :
    l.endpoint env next' ∈ endpoints env next ls := by
  induction ls generalizing next with
  | nil => cases hl
  | cons x ls ih =>
    rcases List.mem_cons.mp hl with rfl | hlater
    · rw [l.endpoint_congr hport env next' next]
      exact List.mem_cons_self
    · exact List.mem_cons_of_mem _ (ih hlater)

/-- Listeners none of which is on port zero hold the same, whatever port the machine would
choose. -/
theorem endpoints_congr (h : ∀ l ∈ ls, l.port? ≠ some 0) (env : Environment) (next next' : Nat) :
    endpoints env next ls = endpoints env next' ls := by
  induction ls generalizing next next' with
  | nil => rfl
  | cons l ls ih =>
    have hfirst := h l List.mem_cons_self
    rw [endpoints, endpoints, if_neg hfirst, if_neg hfirst, l.endpoint_congr hfirst env next next',
      ih (fun x hx => h x (List.mem_cons_of_mem l hx)) next next']

/-- A listener on a socket file is not on port zero. -/
theorem ListenerConfig.port?_ne_zero {p : Place} (h : l.socketFile? env = some p) :
    l.port? ≠ some 0 := by
  have hnone : l.port? = none := by cases l <;> first | rfl | cases h
  rw [hnone]
  exact (Option.some_ne_none 0).symm

/-- The socket files of listeners are held by them. -/
theorem file_mem_endpoints {p : Place} (hp : p ∈ socketFiles env ls) :
    .file p ∈ endpoints env next ls := by
  obtain ⟨l, hl, hfile⟩ := List.mem_filterMap.mp hp
  rw [← (l.endpoint_eq_file_iff env next p).mpr hfile]
  exact endpoint_mem_endpoints hl (l.port?_ne_zero hfile) next

end Endpoints

variable {m m' : Machine} {l : ListenerConfig} {ls : List ListenerConfig}

/-! ## Who holds what -/

/-- **Listeners that are opened hold their addresses**, besides what was held before. -/
theorem Opens.held_eq (h : Opens m ls m') :
    m'.held = m.held ++ endpoints m.env m.nextPort ls := by
  induction h with
  | nil m => rw [endpoints, List.append_nil]
  | @cons m m₁ m₂ t t₁ rid l ls hfirst _ ih =>
    obtain ⟨rfl, -⟩ := openListener_eq_ok hfirst
    have hheld : (m.listening l).held = m.held ++ [l.endpoint m.env m.nextPort] := by
      simp [Machine.held, Machine.listening, ListenerConfig.server]
    rw [ih, hheld, List.append_assoc]
    rfl

/-- What listeners hold is what those before one of them hold, and then the others. -/
theorem Opens.endpoints_append (h : Opens m ls m') (others : List ListenerConfig) :
    endpoints m.env m.nextPort (ls ++ others) =
      endpoints m.env m.nextPort ls ++ endpoints m'.env m'.nextPort others := by
  induction h with
  | nil m => rfl
  | @cons m m₁ m₂ t t₁ rid l ls hfirst _ ih =>
    obtain ⟨rfl, -⟩ := openListener_eq_ok hfirst
    exact congrArg (l.endpoint m.env m.nextPort :: ·) ih

/-- **Each listener that is opened holds its own address.** -/
theorem Opens.holds?_eq (h : Opens m ls m') (i : Nat) :
    m'.holds? (m.servers.length + i) = (endpoints m.env m.nextPort ls)[i]? := by
  induction h generalizing i with
  | nil m =>
    rw [Machine.holds?, List.getElem?_eq_none (Nat.le_add_right _ _)]
    rfl
  | @cons m m₁ m₂ t t₁ rid l ls hfirst hothers ih =>
    obtain ⟨rfl, -⟩ := openListener_eq_ok hfirst
    have hlen : (m.listening l).servers.length = m.servers.length + 1 := by
      simp [Machine.listening]
    cases i with
    | zero =>
      rw [Machine.holds?, Nat.add_zero, hothers.gained.kept _ (by omega)]
      simp [Machine.listening, ListenerConfig.server, endpoints]
    | succ i =>
      have hlater := ih i
      rw [hlen, Nat.add_assoc, Nat.add_comm 1 i] at hlater
      exact hlater

/-- Who holds something holds it on the machine. -/
theorem Machine.mem_held_iff {e : Endpoint} : e ∈ m.held ↔ ∃ id, m.holds? id = some e := by
  refine ⟨fun h => ?_, fun ⟨id, h⟩ => mem_held_of_holds? h⟩
  obtain ⟨s, hs, he⟩ := List.mem_filterMap.mp h
  obtain ⟨id, hid⟩ := List.mem_iff_getElem?.mp hs
  exact ⟨id, by rw [holds?, hid, Option.bind_some, he]⟩

/-! ## Addresses that are free -/

/-- An address that is free: nobody holds it, and the place of a socket file can be reached and is
empty, but for a socket that nobody listens on any more. -/
structure Machine.Vacant (m : Machine) (e : Endpoint) : Prop where
  /-- nobody holds it -/
  unheld : e ∉ m.held
  /-- a socket file can be made in its place -/
  place : ∀ p, e = .file p → m.files.blocked? [] p = none ∧
    (m.files.node? p = none ∨ m.files.node? p = some .socket)

/-- A machine on which the addresses of listeners are pairwise different and free. -/
structure Machine.FreeFor (m : Machine) (ls : List ListenerConfig) : Prop where
  /-- no two listeners have the same address -/
  distinct : (endpoints m.env m.nextPort ls).Nodup
  /-- their addresses are free -/
  vacant : ∀ e ∈ endpoints m.env m.nextPort ls, m.Vacant e

namespace Machine

/-- The place of a socket file that is free is not occupied. -/
theorem Vacant.not_occupied {p : Place} (h : m.Vacant (.file p)) : ¬m.Occupied p := by
  rintro (⟨content, hread⟩ | ⟨id, hholds, -⟩)
  · have hnode := (FileTree.find_eq_ok_iff.mp (FileTree.read_eq_ok_iff.mp hread)).2
    rcases (h.place p rfl).2 with hnone | hsocket
    · cases hnone.symm.trans hnode
    · cases hsocket.symm.trans hnode
  · exact h.unheld (mem_held_of_holds? hholds)

/-- Nothing at the place of a socket file that is free keeps it from being made. -/
theorem Vacant.removable {p : Place} (h : m.Vacant (.file p)) :
    m.files.node? p = none ∨ m.files.find p = .ok .socket := by
  obtain ⟨hway, hnone | hsocket⟩ := h.place p rfl
  · exact .inl hnone
  · exact .inr (FileTree.find_eq_ok_iff.mpr ⟨hway, hsocket⟩)

/-- The address of a listener that is not on port zero is free when all are. -/
theorem FreeFor.vacant_endpoint (h : m.FreeFor ls) :
    ∀ l ∈ ls, l.port? ≠ some 0 → m.Vacant (l.endpoint m.env m.nextPort) :=
  fun _ hl hport => h.vacant _ (endpoint_mem_endpoints hl hport _)

/-- The socket files of listeners whose addresses are free take no occupied place. -/
theorem not_occupied_of_vacant
    (h : ∀ l ∈ ls, l.port? ≠ some 0 → m.Vacant (l.endpoint m.env m.nextPort)) :
    ∀ p ∈ socketFiles m.env ls, ¬m.Occupied p := by
  intro p hp
  obtain ⟨l, hl, hfile⟩ := List.mem_filterMap.mp hp
  have hvacant := h l hl (l.port?_ne_zero hfile)
  rw [(l.endpoint_eq_file_iff m.env m.nextPort p).mpr hfile] at hvacant
  exact hvacant.not_occupied

end Machine

/-- An address that is free stays free when listeners are opened that do not have it. -/
theorem Opens.vacant (h : Opens m ls m') {e : Endpoint} (hvacant : m.Vacant e)
    (hnew : e ∉ endpoints m.env m.nextPort ls) : m'.Vacant e := by
  have hgained := h.gained
  refine ⟨fun hheld => ?_, fun p hp => ?_⟩
  · rw [h.held_eq] at hheld
    exact (List.mem_append.mp hheld).elim hvacant.unheld hnew
  · obtain ⟨hway, hnode⟩ := hvacant.place p hp
    have hother : p ∉ socketFiles m.env ls := fun hp' => hnew (hp ▸ file_mem_endpoints hp')
    rw [hgained.others p hother]
    exact ⟨(hgained.directories.blocked?_eq_none_iff p).mp hway, hnode⟩

namespace Machine.FreeFor

variable {i : Nat} {e : Endpoint}

/-- An address of a listener that has been opened is held by its server alone. -/
theorem eq_of_holds? (hfree : m.FreeFor ls) (h : Opens m ls m')
    (he : (endpoints m.env m.nextPort ls)[i]? = some e) {id : Nat}
    (hholds : m'.holds? id = some e) : id = m.servers.length + i := by
  by_cases hold : id < m.servers.length
  · rw [h.gained.takes.kept id hold] at hholds
    exact absurd (mem_held_of_holds? hholds) (hfree.vacant e (List.mem_of_getElem? he)).unheld
  · obtain ⟨j, -, rfl, -⟩ := h.gained.exists_of_holds? (Nat.le_of_not_lt hold) hholds
    rw [h.holds?_eq] at hholds
    obtain ⟨hlt, -⟩ := List.getElem?_eq_some_iff.mp he
    rw [(List.getElem?_inj hlt hfree.distinct).mp (he.trans hholds.symm)]

/-- **Each listener is reached on its own address** once listeners have been opened whose addresses
were pairwise different and free. -/
theorem reaches (hfree : m.FreeFor ls) (h : Opens m ls m')
    (he : (endpoints m.env m.nextPort ls)[i]? = some e) :
    m'.Reaches e (m.servers.length + i) := by
  have hholds := (h.holds?_eq i).trans he
  refine ⟨hholds, fun p hp => ⟨FileTree.find_eq_ok_iff.mpr ⟨?_, ?_⟩, fun later hlt hlater => ?_⟩⟩
  · have hway := ((hfree.vacant e (List.mem_of_getElem? he)).place p hp).1
    exact (h.gained.directories.blocked?_eq_none_iff p).mp hway
  · obtain ⟨hi, -⟩ := List.getElem?_eq_some_iff.mp he
    rw [length_endpoints] at hi
    have hl := List.getElem?_eq_getElem hi
    have hfile := (h.gained.holds?_eq_file_iff hl).mp (hp ▸ hholds)
    exact h.gained.sockets p (List.mem_filterMap.mpr ⟨_, List.mem_of_getElem? hl, hfile⟩)
  · have hsame := hfree.eq_of_holds? h he hlater
    omega

end Machine.FreeFor

/-! ## Starting -/

/-- A port that is free, or that the machine chooses, can be listened on. -/
theorem exists_listenIp_eq_ok {hostname : String} {port : Nat}
    (h : port ≠ 0 → .port hostname port ∉ m.held) :
    ∃ id m', m.listenIp hostname port = (.ok id, m') := by
  unfold Machine.listenIp
  by_cases hzero : port = 0
  · exact ⟨_, _, if_pos hzero⟩
  · exact ⟨_, _, (if_neg hzero).trans (if_neg (h hzero))⟩

/-- A listener can be opened whose address is free, or on a port that the machine chooses, when what
it needs is there. -/
theorem exists_openServer_eq_ok (hprovided : l.Provided m)
    (hvacant : l.port? ≠ some 0 → m.Vacant (l.endpoint m.env m.nextPort)) :
    ∃ id m', openServer m l = (.ok id, m') := by
  have hport : ∀ {hostname port}, l.ip? = some (hostname, port) → port ≠ 0 →
      .port hostname port ∉ m.held := by
    intro hostname port hip hne
    have hunheld := (hvacant (by simpa [ListenerConfig.port?, hip] using hne)).unheld
    cases l <;> cases hip <;> simpa [ListenerConfig.endpoint, hne] using hunheld
  cases l with
  | tcp hostname port => exact exists_listenIp_eq_ok (hport rfl)
  | tls hostname port certPath keyPath =>
    obtain ⟨cert, key, hread, hpair⟩ := hprovided
    rw [openServer_tls_of_ok hread hpair]
    exact exists_listenIp_eq_ok (hport rfl)
  | unix path =>
    have hfile : m.Vacant (.file (m.place (m.env.expandHome path.repaired))) :=
      hvacant (Option.some_ne_none 0).symm
    obtain ⟨hway, -⟩ := hfile.place _ rfl
    rcases hfile.removable with hnone | hsocket
    · have hlocate : m.files.locate m.env.cwd (m.env.expandHome path.repaired) =
          .ok ⟨m.place (m.env.expandHome path.repaired), false⟩ := hprovided
      have hremove : removeStale m (m.env.expandHome path.repaired) = .ok m := by
        rw [removeStale, FileTree.unlinkPath, FileTree.atPath, hlocate]
        dsimp only
        rw [FileTree.unlink_eq_noEntry hway hnone]
      rw [openServer_unix_of_ok hremove]
      exact ⟨_, _, listenUnix_eq hprovided hnone⟩
    · exact ⟨_, _, openServer_of_find hprovided hsocket FileNode.noConfusion⟩

/-- **Starting a server on free addresses succeeds**: its listeners are opened when no two of them
have the same address, those that are not on port zero have addresses that are free, and what they
need is there.

**Proof sketch.** Otherwise there is a first listener that cannot be opened. Its address is still
free, since those before it have others, and what it needs is still there, since socket files have
only been made in places that were free. -/
theorem exists_startServer_eq_ok (logger : Logger) (m : Machine) (c : ServerConfig)
    (hprovided : ∀ l ∈ c.listeners, l.Provided m)
    (hdistinct : (endpoints m.env m.nextPort c.listeners).Nodup)
    (hvacant : ∀ l ∈ c.listeners, l.port? ≠ some 0 → m.Vacant (l.endpoint m.env m.nextPort)) :
    ∃ hs, (startServer defaultClaim logger m c).result = .ok hs := by
  rcases startServer_cases logger m c with ⟨m', hs, next, log, -, -, hrun⟩ |
    ⟨before, l, after, f, m₁, m', next, log, hlist, hopens, hf, -, -⟩
  · exact ⟨hs, by rw [hrun]⟩
  · have hl : l ∈ c.listeners := hlist ▸ List.mem_append_right _ List.mem_cons_self
    have hgained := hopens.gained
    have hfree : l.port? ≠ some 0 → m₁.Vacant (l.endpoint m₁.env m₁.nextPort) := by
      intro hport
      rw [hgained.env, l.endpoint_congr hport m.env m₁.nextPort m.nextPort]
      refine hopens.vacant (hvacant l hl hport) fun hbefore => ?_
      rw [hlist, hopens.endpoints_append] at hdistinct
      refine (List.nodup_append.mp hdistinct).2.2 _ hbefore _ List.mem_cons_self ?_
      rw [hgained.env, l.endpoint_congr hport m.env m₁.nextPort m.nextPort]
    have hspares : m.Spares m₁ := hgained.takes.spares_iff.mpr
      (Machine.not_occupied_of_vacant fun x hx =>
        hvacant x (hlist ▸ List.mem_append_left _ hx))
    have hthere : l.Provided m₁ := (hprovided l hl).congr hgained.env hgained.pairFault?
      hgained.directories hspares.files
    obtain ⟨id, m₂, hopened⟩ := exists_openServer_eq_ok hthere hfree
    have hrefused := hf .empty
    rw [openListener, hopened] at hrefused
    cases hrefused

end TargetUri
