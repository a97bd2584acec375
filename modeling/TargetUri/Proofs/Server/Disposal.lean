import TargetUri.Proofs.Resource.Operations
import TargetUri.Server.Serve

set_option autoImplicit false

/-!
# Serving never leaks a resource

Whoever serves a listener, or hands a stream to one, takes it from the table before looking at what
stands behind it. So what is taken and turns out to be of no use has to be closed. It is: a resource
ends in the table, with whoever serves it, or closed, and nothing else is touched.

## Main definitions

* `TargetUri.ResourceTable.IsOn` — a table whose resources refer to parts of the machine.
* `TargetUri.Use` — what an operation takes a resource for.
* `TargetUri.ServeHandle.StandsFor`, `TargetUri.ServeHandle.HasRegistered` — what a listener and a
  stream come to that are used.
* `TargetUri.Effect.Disposes` — what an operation does with the resource under a number.

## Main results

* `TargetUri.disposes_reject` — a resource that is rejected is closed, or refuses to be.
* `TargetUri.serving_disposes` — what becomes of every resource that is taken to be served.
-/

namespace TargetUri

/-- A table whose resources all refer to parts that the machine has. -/
def ResourceTable.IsOn (m : Machine) (t : ResourceTable) : Prop :=
  ∀ e ∈ t.entries, e.2.referent.IsOn m

/-! ## What a resource is taken for -/

/-- What an operation takes a resource for: the kind that it asks for, which resources of that kind
it can use, and the fault of those that it cannot. -/
structure Use where
  /-- whether a resource is of the kind -/
  kind : Resource → Bool
  /-- what the kind is called -/
  expected : String
  /-- whether a resource can be used -/
  usable : Resource → Bool
  /-- the fault of one that cannot -/
  fault : Resource → Fault

namespace Use

/-- Serving a listener: it must be a server of the machine, and listen. -/
def listener (m : Machine) (rid : Int) : Use where
  kind := Resource.isListener
  expected := ResourceTable.listenerKind
  usable
    | .server id _ => (m.serverAddress? id).isSome
    | _ => false
  fault
    | .server .. => .notListening
    | r => .unsupportedListener rid r.name

/-- Handing over a stream: it must be a socket of the machine. -/
def stream (rid : Int) : Use where
  kind := Resource.isStream
  expected := ResourceTable.streamKind
  usable
    | .socket .. => true
    | _ => false
  fault r := .unsupportedStream rid r.name

end Use

/-! ## What becomes of a resource -/

/-- A listener that is served by the server of a resource, on the address that it listens on. -/
def ServeHandle.StandsFor (m : Machine) (h : ServeHandle) : Resource → Prop
  | .server id t => h.server = id ∧
    ∃ a, m.serverAddress? id = some a ∧ h.listen = ListenProperties.create t a
  | _ => False

/-- A registry in which the socket of a resource has been registered as a connection of a listener.
Over TLS, or when the peer cannot be read any more, nothing is registered. -/
def ServeHandle.HasRegistered (h : ServeHandle) (m : Machine) (before after : Registry) :
    Resource → Prop
  | .socket id _ _ =>
    after = if h.listen.streamType = .tls then before
      else
        match (m.socket id).peerAddress? h.listen.streamType with
        | none => before
        | some peer => (id, ⟨h.listen, ConnectionProperties.create h.listen peer⟩) :: before
  | _ => False

/-- **What an operation does with the resource under a number**, when one that it uses is to come to
something. There are five ways for it to end. -/
inductive Effect.Disposes {α : Type} (m : Machine) (t : ResourceTable) (rid : Int) (u : Use)
    (becomes : Resource → α → Prop) (e : Effect α) : Prop where
  /-- there is no resource, and all is as it was -/
  | absent (held : ∀ r, ¬t.Holds rid r)
      (result : e.result = .error (.badResource rid .notFound none))
      (machine : e.machine = m) (table : e.table = t)
  /-- the resource is of another kind, and all is as it was -/
  | wrongKind (r : Resource) (held : t.Holds rid r) (kind : u.kind r = false)
      (result : e.result = .error (.badResource rid .wrongKind (some u.expected)))
      (machine : e.machine = m) (table : e.table = t)
  /-- the resource is used: it has left the table for what it was taken for, and nothing has been
  closed -/
  | used (r : Resource) (a : α) (held : t.Holds rid r) (kind : u.kind r = true)
      (usable : u.usable r = true) (result : e.result = .ok a) (became : becomes r a)
      (machine : e.machine = m) (table : t.Loses rid r e.table)
  /-- the resource cannot be used: it has left the table and is closed, and no other has changed -/
  | closed (r : Resource) (held : t.Holds rid r) (kind : u.kind r = true)
      (usable : u.usable r = false) (result : e.result = .error (u.fault r))
      (table : t.Loses rid r e.table) (closed : r.isClosed e.machine = true)
      (others : ∀ r' : Resource, r'.referent ≠ r.referent → r'.Unchanged m e.machine)
  /-- the resource cannot be used and refuses to close: it has left the table, nothing else has
  changed, and the fault is that of closing it -/
  | refused (r : Resource) (f : Fault) (held : t.Holds rid r) (kind : u.kind r = true)
      (usable : u.usable r = false) (closing : (r.close m).1 = .error f)
      (result : e.result = .error f) (machine : e.machine = m) (table : t.Loses rid r e.table)

section Rejecting

variable {m : Machine} {r : Resource}

/-- A resource that can be closed is rejected with the fault given. -/
theorem reject_of_ok {α : Type} (h : (r.close m).1 = .ok ()) (f : Fault) :
    reject (α := α) m r f = (.error f, (r.close m).2) := by
  unfold reject
  split
  · rename_i g m' hclose
    rw [hclose] at h
    cases h
  · rename_i m' hclose
    rw [hclose]

/-- A resource that refuses to close is rejected with the fault of that. -/
theorem reject_of_error {α : Type} {g : Fault} (h : (r.close m).1 = .error g) (f : Fault) :
    reject (α := α) m r f = (.error g, (r.close m).2) := by
  unfold reject
  split
  · rename_i g' m' hclose
    rw [hclose] at h
    rw [hclose, Except.error.inj h]
  · rename_i m' hclose
    rw [hclose] at h
    cases h

variable {t : ResourceTable} {rid : Int} {u : Use}

/-- **A resource that is rejected is closed, or refuses to be.** -/
theorem disposes_reject {α : Type} (becomes : Resource → α → Prop) (hheld : t.Holds rid r)
    (hon : r.referent.IsOn m)
    (hkind : u.kind r = true) (husable : u.usable r = false)
    (htable : t.Loses rid r (t.remove rid)) (log : List Record) :
    Effect.Disposes m t rid u becomes (⟨(reject (α := α) m r (u.fault r)).1,
      (reject (α := α) m r (u.fault r)).2, t.remove rid, log⟩ : Effect α) := by
  cases hclose : (r.close m).1 with
  | ok _ =>
    rw [reject_of_ok hclose]
    exact .closed r hheld hkind husable rfl htable (Resource.isClosed_close hon hclose)
      fun r' hr' => Resource.unchanged_close hr'
  | error g =>
    rw [reject_of_error hclose]
    exact .refused r g hheld hkind husable hclose rfl (Resource.close_eq_error hclose) htable

end Rejecting

/-! ## Taking and looking -/

/-- What a taker gets: nothing, for want of a resource or of one of the kind, or the resource. -/
theorem ResourceTable.take_cases {t : ResourceTable}
    (hasc : (t.entries.map (·.1)).Pairwise (· < ·)) (rid : Int) (guard : Resource → Bool)
    (expected : Option String) :
    ((∀ r, ¬t.Holds rid r) ∧
        t.take rid guard expected = .error (.badResource rid .notFound none)) ∨
      ∃ r, t.Holds rid r ∧
        (guard r = false ∧
            t.take rid guard expected = .error (.badResource rid .wrongKind expected) ∨
          guard r = true ∧ t.take rid guard expected = .ok (r, t.remove rid) ∧
            t.Loses rid r (t.remove rid)) := by
  cases hf : t.find? rid with
  | none =>
    refine .inl ⟨(find?_eq_none_iff_not_holds hasc).mp hf, ?_⟩
    rw [take, get, hf]
    rfl
  | some r =>
    refine .inr ⟨r, exists_mem_of_find? hf, ?_⟩
    cases hg : guard r with
    | false =>
      refine .inl ⟨rfl, ?_⟩
      simp only [take, get, hf, hg]
      rfl
    | true =>
      refine .inr ⟨rfl, ?_, loses_remove hasc hf⟩
      simp only [take, get, hf, hg]
      rfl

section Taking

variable {m : Machine} {t : ResourceTable} {rid : Int}

/-- What a table holds refers to a part of the machine. -/
theorem ResourceTable.IsOn.of_holds (hon : t.IsOn m) {r : Resource} (h : t.Holds rid r) :
    r.referent.IsOn m := by
  obtain ⟨k, -, hmem⟩ := h
  exact hon (k, r) hmem

/-- **Serving a listener** disposes of it. -/
theorem serveListener_disposes (hasc : (t.entries.map (·.1)).Pairwise (· < ·)) (hon : t.IsOn m)
    (logger : Logger) (rid : Int) :
    (serveListener ResourceTable.takeListener logger m t rid).Disposes m t rid
      (.listener m rid) fun r h => h.StandsFor m r := by
  unfold serveListener ResourceTable.takeListener
  have hcases := ResourceTable.take_cases hasc rid Resource.isListener
    (some ResourceTable.listenerKind)
  rcases hcases with ⟨hnone, htake⟩ | ⟨r, hheld, ⟨hkind, htake⟩ | ⟨hkind, htake, hloses⟩⟩
  · rw [htake]
    exact .absent hnone rfl rfl rfl
  · rw [htake]
    exact .wrongKind r hheld hkind rfl rfl rfl
  · rw [htake]
    cases r with
    | server id st =>
      -- only a server is looked at, and it is closed when it does not listen
      cases haddress : m.serverAddress? id with
      | none =>
        have hserve : serveServer m logger id st = (.error .notListening, []) := by
          rw [serveServer, haddress]
        have hclosed : (Resource.server id st).isClosed m = true := by
          rw [Resource.isClosed, haddress, Option.isNone_none]
        refine .closed _ hheld hkind ?_ ?_ hloses hclosed fun r' _ => ⟨rfl, rfl, rfl⟩
        · simp only [Use.listener, haddress, Option.isSome_none]
        · simp only [hserve, Use.listener]
      | some a =>
        obtain ⟨h, hserve, hstands⟩ : ∃ h, (serveServer m logger id st).1 = .ok h ∧
            h.StandsFor m (.server id st) := by
          rw [serveServer, haddress]
          exact ⟨_, rfl, rfl, a, haddress, rfl⟩
        refine .used _ h hheld hkind ?_ hserve hstands rfl hloses
        simp only [Use.listener, haddress, Option.isSome_some]
    | _ => exact disposes_reject _ hheld (hon.of_holds hheld) hkind rfl hloses []

/-- A socket that is handed to a listener is registered there as a connection that arrives. -/
theorem ServeHandle.hasRegistered_register (h : ServeHandle) (m : Machine) (registry : Registry)
    (id : Nat) (t : StreamType) (path : Option String) (hplain : h.listen.streamType ≠ .tls) :
    h.HasRegistered m registry (h.register m registry id).1 (.socket id t path) := by
  refine .trans ?_ (if_neg hplain).symm
  cases hpeer : (m.socket id).peerAddress? h.listen.streamType <;>
    simp only [register, accept, hpeer]

/-- **Handing over a stream** disposes of it; unless it is used nothing is registered. -/
theorem ServeHandle.adopt_disposes (hasc : (t.entries.map (·.1)).Pairwise (· < ·)) (hon : t.IsOn m)
    (h : ServeHandle) (registry : Registry) (rid : Int) :
    let o := h.adopt m t registry rid
    (o.1.Disposes m t rid (.stream rid) fun r _ => h.HasRegistered m registry o.2 r) ∧
      ∀ f, o.1.result = .error f → o.2 = registry := by
  unfold adopt ResourceTable.takeStream
  rcases ResourceTable.take_cases hasc rid Resource.isStream (some ResourceTable.streamKind) with
    ⟨hnone, htake⟩ | ⟨r, hheld, ⟨hkind, htake⟩ | ⟨hkind, htake, hloses⟩⟩
  · rw [htake]
    exact ⟨.absent hnone rfl rfl rfl, fun _ _ => rfl⟩
  · rw [htake]
    exact ⟨.wrongKind r hheld hkind rfl rfl rfl, fun _ _ => rfl⟩
  · rw [htake]
    cases r with
    | socket id st path =>
      by_cases htls : h.listen.streamType = .tls
      · simp only [if_pos htls]
        refine ⟨.used _ () hheld hkind rfl rfl ?_ rfl hloses, nofun⟩
        exact (if_pos htls).symm
      · simp only [if_neg htls]
        exact ⟨.used _ () hheld hkind rfl rfl (h.hasRegistered_register m registry id st path htls)
          rfl hloses, nofun⟩
    | _ =>
      exact ⟨disposes_reject _ hheld (hon.of_holds hheld) hkind rfl hloses [], fun _ _ => rfl⟩

end Taking

/-- **Serving never leaks a resource.** On every table that calls lead to, whose resources are those
of the machine, and for every number: serving a listener and handing a stream to any listener that
is served either find nothing of the kind and change nothing, or use the resource and close nothing,
or close what they cannot use and touch nothing else. A listener that is used is served by its own
server, and a stream is registered as a connection; a stream that cannot be used is not. Only a
resource that refuses to close is lost otherwise, and then its own fault is the answer. Whatever was
taken has left the table, which is the only entry to do so.

**Proof sketch.** The numbers of the table ascend, so a taker gets what the table holds and removes
one entry (`ResourceTable.take_cases`). What it got is looked at then: it is used where it can be,
and rejected where it cannot (`disposes_reject`). -/
theorem serving_disposes (calls : List (Machine × TableCall)) {m : Machine}
    (hon : (ResourceTable.empty.afterCalls calls).IsOn m) (rid : Int) :
    let t := ResourceTable.empty.afterCalls calls
    (∀ logger : Logger, (serveListener ResourceTable.takeListener logger m t rid).Disposes m t rid
      (.listener m rid) fun r h => h.StandsFor m r) ∧
    ∀ (h : ServeHandle) (registry : Registry),
      let o := h.adopt m t registry rid
      (o.1.Disposes m t rid (.stream rid) fun r _ => h.HasRegistered m registry o.2 r) ∧
        ∀ f, o.1.result = .error f → o.2 = registry := by
  intro t
  have hasc : (t.entries.map (·.1)).Pairwise (· < ·) := (Ledger.empty.run calls).ascending
  refine ⟨fun logger => ?_, fun h registry => ?_⟩
  · exact serveListener_disposes hasc hon logger rid
  · exact h.adopt_disposes hasc hon registry rid

/-- A resource that only looks like a listener, and refuses to close, is gone from the table after
it could not be served, and its fault is the answer; as a stream it is not even taken. -/
theorem serving_disposes_impostor :
    let r : Resource := .foreign 0 "tcpListener" [.streamType, .localAddress]
      (some (.coded Resource.closeCode "busy" none))
    let m := (Machine.start ⟨"/", "/", "/"⟩ []).addFlag.2
    let t := ResourceTable.empty.afterCalls [(m, .add r)]
    let h : ServeHandle := ⟨.create .tcp (.ip "::1" 80), 0, .create .info []⟩
    let served := serveListener ResourceTable.takeListener h.logger m t 0
    let adopted := h.adopt m t [] 0
    t.IsOn m ∧
      ((served.Disposes m t 0 (.listener m 0) fun r x => x.StandsFor m r) ∧
        served.table.entries = []) ∧
      (adopted.1.Disposes m t 0 (.stream 0) fun r _ => h.HasRegistered m [] adopted.2 r) ∧
        adopted.1.table.entries = [(0, r)] ∧ adopted.2 = [] := by
  intro r m t h served adopted
  have hon : t.IsOn m := by
    intro e he
    obtain rfl : e = (0, r) := List.mem_singleton.mp he
    exact Nat.zero_lt_one
  obtain ⟨hserve, hadopt⟩ := serving_disposes [(m, .add r)] hon 0
  obtain ⟨hadopted, hunregistered⟩ := hadopt h []
  exact ⟨hon, ⟨hserve h.logger, rfl⟩, hadopted, rfl, hunregistered _ rfl⟩

end TargetUri
