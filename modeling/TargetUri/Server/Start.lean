import TargetUri.Server.Serve

set_option autoImplicit false

/-!
# Starting a server

Opening and serving every configured listener, or none.

## Main definitions

* `TargetUri.startServer` — starts a server.
* `TargetUri.closeAll` — closes every listener of a server.
-/

namespace TargetUri

/-- Closes listeners in order. One that cannot be closed does not keep the others from being
closed, and the first such fault is the outcome. -/
def closeAll (m : Machine) : List ServeHandle → Except Fault Unit × Machine × List Record
  | [] => (.ok (), m, [])
  | h :: hs =>
    let first := h.close m
    let others := closeAll first.2.1 hs
    (match first.1 with
      | .ok () => others.1
      | .error f => .error f,
      others.2.1, first.2.2 ++ others.2.2)

/-- Closes everything that is in a table. -/
def closeTable (m : Machine) (t : ResourceTable) :
    List (Nat × Resource) → Except Fault Unit × Machine × ResourceTable
  | [] => (.ok (), m, t)
  | (rid, _) :: entries =>
    match t.close m rid with
    | (.ok (), m, t) => closeTable m t entries
    | (.error f, m, t) => (.error f, m, t)

/-- Undoes what an attempt to start has done: the listeners that are served are closed, then those
that are still in the table. The fault is the one of the attempt, unless undoing it fails. -/
def undo (m : Machine) (t : ResourceTable) (handles : List ServeHandle) (f : Fault) :
    Effect (List ServeHandle) :=
  match closeAll m handles with
  | (.error g, m, log) => ⟨.error g, m, t, log⟩
  | (.ok (), m, log) =>
    match closeTable m t t.entries with
    | (.error g, m, t) => ⟨.error g, m, t, log⟩
    | (.ok (), m, t) => ⟨.error f, m, t, log⟩

/-- An outcome with records written before it. -/
def Effect.after {α : Type} (log : List Record) (e : Effect α) : Effect α :=
  { e with log := log ++ e.log }

/-- Opens and serves listeners one after the other, those of `handles` being served already. At the
first that cannot be opened or served, all are closed. -/
def startListeners (claim : Nat → Claim) (logger : Logger) (m : Machine) (t : ResourceTable)
    (handles : List ServeHandle) : List ListenerConfig → Effect (List ServeHandle)
  | [] => ⟨.ok handles, m, t, []⟩
  | c :: cs =>
    match openListener m t c with
    | (.error f, m, t) => undo m t handles f
    | (.ok rid, m, t) =>
      let e := serveListener (claim handles.length) logger m t rid
      match e.result with
      | .error f => (undo e.machine e.table handles f).after e.log
      | .ok h =>
        (startListeners claim logger e.machine e.table (handles ++ [h]) cs).after e.log

/-- **Starts a server: opens and serves every configured listener, or none.** The listeners are
taken from a table of the server's own, the one numbered `n` by `claim n`. -/
def startServer (claim : Nat → Claim) (logger : Logger) (m : Machine) (c : ServerConfig) :
    Effect (List ServeHandle) :=
  startListeners claim logger m .empty [] c.listeners

/-- The way in which listeners are taken from a table. -/
def defaultClaim : Nat → Claim := fun _ => ResourceTable.takeListener

/-- A way to take listeners that takes the first `n` from the table and then gives one and the same
resource, the table untouched. -/
def substituteClaim (n : Nat) (r : Resource) : Nat → Claim := fun k t rid =>
  if k < n then t.takeListener rid else .ok (r, t)

end TargetUri
