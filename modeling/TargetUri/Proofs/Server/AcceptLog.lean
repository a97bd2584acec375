import TargetUri.Server.Session

set_option autoImplicit false

/-!
# Accept events and registries

A run of a session leaves a log of accept events: which listener accepted which socket, and what
could be read of the peer. A registry that has been told of these events, one after the other, knows
of a socket what the last of them tells that counts for it.

## Main definitions

* `TargetUri.Acceptance` — an accept event.
* `TargetUri.Acceptance.latest?` — the last event of a log that counts for a socket.
* `TargetUri.Session.acceptance?`, `TargetUri.Session.acceptances` — the accept events of a step and
  of a run.

## Main results

* `TargetUri.Acceptance.known?_concat` — what a log tells after one more event.
* `TargetUri.ServedListener.lookup_register` — what a registry knows after one more event.
-/

namespace TargetUri

/-! ## Accept events -/

/-- An accept event: a listener, a socket, and the address of the peer if it could be read. -/
structure Acceptance where
  /-- the listener -/
  listener : ServedListener
  /-- the socket -/
  socket : Nat
  /-- the address of the peer -/
  peer : Option Address

namespace Acceptance

/-- The record of the listener. -/
def listen (a : Acceptance) : ListenProperties := a.listener.handle.listen

/-- What is known of the connection, if the peer could be read. -/
def record? (a : Acceptance) : Option ConnectionEntry :=
  a.peer.map fun peer => ⟨a.listen, .create a.listen peer⟩

/-- Whether an event counts for a socket in the registry of a site. -/
def countsFor (site socket : Nat) (a : Acceptance) : Bool :=
  a.listener.registry == site && a.socket == socket && a.peer.isSome

/-- The last event of a log that counts for a socket in the registry of a site. -/
def latest? (log : List Acceptance) (site socket : Nat) : Option Acceptance :=
  (log.filter (countsFor site socket)).getLast?

/-- What a log tells of a connection. -/
def known? (log : List Acceptance) (site socket : Nat) : Option ConnectionEntry :=
  (latest? log site socket).bind record?

end Acceptance

/-- The event of a listener that accepts a socket. -/
def ServedListener.acceptance (h : ServedListener) (m : Machine) (socket : Nat) : Acceptance :=
  ⟨h, socket, (m.socket socket).peerAddress? h.handle.listen.streamType⟩

/-- The socket of a stream that is handed to a listener, unless the stream has still to be secured.
-/
def ServeHandle.adopted? (h : ServeHandle) (t : ResourceTable) (rid : Int) : Option Nat :=
  match t.takeStream rid with
  | .ok (.socket id _ _, _) => if h.listen.streamType = .tls then none else some id
  | _ => none

namespace Session

/-- The accept event of a step, if there is one. -/
def acceptance? (s : Session) : SessionStep → Option Acceptance
  | .connect handle socket =>
    s.handles[handle]?.bind fun h =>
      some ⟨h, s.machine.sockets.length, socket.peerAddress? h.handle.listen.streamType⟩
  | .accept handle socket =>
    s.handles[handle]?.bind fun h => s.sockets[socket]?.map (h.acceptance s.machine)
  | .adopt handle rid =>
    s.handles[handle]?.bind fun h => (h.handle.adopted? s.table rid).map (h.acceptance s.machine)
  | _ => none

/-- The accept events of steps in a row. -/
def acceptances (s : Session) : List SessionStep → List Acceptance
  | [] => []
  | x :: xs => (s.acceptance? x).toList ++ acceptances (s.step x).session xs

end Session

/-! ## Logs -/

namespace Acceptance

variable (log : List Acceptance) (a : Acceptance) (site socket : Nat)

/-- The last event of a log with one more event. -/
theorem latest?_concat : latest? (log ++ [a]) site socket =
    if countsFor site socket a then some a else latest? log site socket := by
  unfold latest?
  rw [List.filter_append, List.filter_cons, List.filter_nil]
  split
  · rw [List.getLast?_concat]
  · rw [List.append_nil]

/-- What a log with one more event tells of a connection. -/
theorem known?_concat : known? (log ++ [a]) site socket =
    if a.listener.registry = site ∧ a.socket = socket then a.record?.or (known? log site socket)
    else known? log site socket := by
  unfold known?
  rw [latest?_concat, countsFor]
  by_cases h : a.listener.registry = site ∧ a.socket = socket
  · obtain ⟨rfl, rfl⟩ := h
    cases hp : a.peer with
    | none => simp [record?, hp]
    | some peer => simp [record?, hp]
  · rw [if_neg h, if_neg]
    simpa using fun h₁ h₂ => absurd ⟨h₁, h₂⟩ h

variable {log a site socket}

/-- An event that counts is in the log and could read its peer. -/
theorem mem_of_latest? (h : latest? log site socket = some a) : a ∈ log ∧ a.peer.isSome := by
  obtain ⟨hmem, hcounts⟩ := List.mem_filter.mp (List.mem_of_getLast? h)
  simp only [countsFor, Bool.and_eq_true] at hcounts
  exact ⟨hmem, hcounts.2⟩

end Acceptance

/-! ## Registries -/

/-- Look-up in a registry after a listener has accepted a socket. -/
theorem ServedListener.lookup_register (h : ServedListener) (m : Machine) (registry : Registry)
    (id socket : Nat) :
    (h.handle.register m registry id).1.lookup socket =
      if id = socket then (h.acceptance m id).record?.or (registry.lookup socket)
      else registry.lookup socket := by
  have hentry : (h.handle.accept (m.socket id)).1 = (h.acceptance m id).record? := by
    unfold ServeHandle.accept Acceptance.record? acceptance Acceptance.listen
    dsimp only
    split
    · next hp => rw [hp]; rfl
    · next peer hp => rw [hp]; rfl
  have hreg : (h.handle.register m registry id).1 =
      ((h.acceptance m id).record?.map (Prod.mk id)).toList ++ registry := by
    rw [← hentry]
    unfold ServeHandle.register
    split
    · next ho => rw [ho]; rfl
    · next ho => rw [ho]; rfl
  rw [hreg]
  cases (h.acceptance m id).record? with
  | none => simp
  | some e =>
    by_cases hid : id = socket
    · simp [hid]
    · have hne : (socket == id) = false := by simpa using Ne.symm hid
      simp [hid, List.lookup_cons, hne]

namespace Session

/-- The registries of a session after one of them was replaced. -/
theorem registry_setRegistry {s : Session} {site : Nat} (h : site < s.sites.length)
    (registry : Registry) (k : Nat) :
    (s.setRegistry site registry).registry k = if site = k then registry else s.registry k := by
  unfold setRegistry Session.registry
  rw [List.getElem?_modify]
  by_cases hk : site = k
  · subst hk
    simp [List.getElem?_eq_getElem h]
  · simp [hk]

/-- Replacing a registry by itself changes none. -/
theorem registry_setRegistry_self (s : Session) (site k : Nat) :
    (s.setRegistry site (s.registry site)).registry k = s.registry k := by
  by_cases h : site < s.sites.length
  · rw [registry_setRegistry h]
    split
    · next hk => rw [hk]
    · rfl
  · -- there is no such registry to be replaced
    have hsame : s.sites.modify site (fun x => { x with registry := s.registry site }) = s.sites :=
      List.modify_eq_self (Nat.le_of_not_lt h)
    unfold setRegistry
    rw [hsame]

end Session

end TargetUri
