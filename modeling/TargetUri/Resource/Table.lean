import TargetUri.Resource.Basic

set_option autoImplicit false

/-!
# Resource tables

Resources under numbers. Numbers are given out in order and never again, so a number stands for one
resource for ever. Taking a resource removes it: of two takers of one number only the first gets
it.

## Main definitions

* `TargetUri.ResourceTable` — a table.
* `TargetUri.ResourceTable.add`, `TargetUri.ResourceTable.get`, `TargetUri.ResourceTable.take`,
  `TargetUri.ResourceTable.close` — its operations.
* `TargetUri.TableCall`, `TargetUri.ResourceTable.call` — a call of an operation, with any resource
  and any kind that may be asked for.
* `TargetUri.TableSession.run` — a run of operations on a fresh table.

## Design

A number may come from anywhere and is any whole number. An operation that fails leaves the table
as it was, but for one: closing removes the entry before the resource is closed, so an entry whose
resource refuses to close is gone all the same.
-/

namespace TargetUri

/-- Resources under numbers, in the order in which they were added. -/
structure ResourceTable where
  /-- the number of the next resource -/
  next : Nat
  /-- the resources -/
  entries : List (Nat × Resource)

namespace ResourceTable

/-- The table without resources. -/
def empty : ResourceTable := ⟨0, []⟩

/-- The number of resources. -/
def size (t : ResourceTable) : Nat := t.entries.length

/-- The resource under a number. -/
def find? (t : ResourceTable) (rid : Int) : Option Resource :=
  (t.entries.find? fun e => (e.1 : Int) == rid).map (·.2)

/-- Whether there is a resource under a number. -/
def has (t : ResourceTable) (rid : Int) : Bool := (t.find? rid).isSome

/-- The names of the resources under their numbers. -/
def names (t : ResourceTable) : List (Nat × String) := t.entries.map fun e => (e.1, e.2.name)

/-- The table with one more resource, and its number. -/
def add (t : ResourceTable) (r : Resource) : Nat × ResourceTable :=
  (t.next, ⟨t.next + 1, t.entries ++ [(t.next, r)]⟩)

/-- The table with nothing under a number. -/
def remove (t : ResourceTable) (rid : Int) : ResourceTable :=
  { t with entries := t.entries.filter fun e => (e.1 : Int) != rid }

/-- The resource under a number, if it is of the kind asked for. -/
def get (t : ResourceTable) (rid : Int) (guard : Resource → Bool) (expected : Option String) :
    Except Fault Resource :=
  match t.find? rid with
  | none => .error (.badResource rid .notFound none)
  | some r => if guard r then .ok r else .error (.badResource rid .wrongKind expected)

/-- The resource under a number, if it is of the kind asked for, and the table without it. -/
def take (t : ResourceTable) (rid : Int) (guard : Resource → Bool) (expected : Option String) :
    Except Fault (Resource × ResourceTable) :=
  (t.get rid guard expected).map fun r => (r, t.remove rid)

/-- What a taker of a listener calls it. -/
def listenerKind : String := "network stream listener"

/-- What a taker of a stream calls it. -/
def streamKind : String := "network stream"

/-- Takes a listener. -/
def takeListener (t : ResourceTable) (rid : Int) : Except Fault (Resource × ResourceTable) :=
  t.take rid Resource.isListener (some listenerKind)

/-- Takes a stream. -/
def takeStream (t : ResourceTable) (rid : Int) : Except Fault (Resource × ResourceTable) :=
  t.take rid Resource.isStream (some streamKind)

/-- Removes a resource and closes it. -/
def close (m : Machine) (t : ResourceTable) (rid : Int) :
    Except Fault Unit × Machine × ResourceTable :=
  match t.find? rid with
  | none => (.error (.badResource rid .notFound none), m, t)
  | some r =>
    let c := r.close m
    (c.1, c.2, t.remove rid)

end ResourceTable

/-! ## Calls -/

/-- A call of an operation of a table. -/
inductive TableCall where
  /-- adds a resource -/
  | add (r : Resource)
  /-- asks whether there is a resource -/
  | has (rid : Int)
  /-- looks at a resource of a kind -/
  | get (rid : Int) (guard : Resource → Bool) (expected : Option String)
  /-- takes a resource of a kind -/
  | take (rid : Int) (guard : Resource → Bool) (expected : Option String)
  /-- closes a resource -/
  | close (rid : Int)

/-- What an operation on a table answers. -/
inductive TableAnswer where
  /-- the number of a new resource -/
  | added (rid : Nat)
  /-- whether there is a resource -/
  | presence (present : Bool)
  /-- a resource -/
  | found (resource : Resource)
  /-- that a resource has been closed -/
  | closed

/-- The answer to a call, and the machine and the table after it. -/
def ResourceTable.call (m : Machine) (t : ResourceTable) :
    TableCall → Except Fault TableAnswer × Machine × ResourceTable
  | .add r => (.ok (.added (t.add r).1), m, (t.add r).2)
  | .has rid => (.ok (.presence (t.has rid)), m, t)
  | .get rid guard expected => ((t.get rid guard expected).map .found, m, t)
  | .take rid guard expected =>
    match t.take rid guard expected with
    | .ok (r, t) => (.ok (.found r), m, t)
    | .error f => (.error f, m, t)
  | .close rid =>
    let c := t.close m rid
    (c.1.map fun _ => .closed, c.2)

/-- The resource that a call adds, if it adds one. -/
def TableCall.added? : TableCall → Option Resource
  | .add r => some r
  | _ => none

/-! ## Runs -/

/-- Which resources an operation accepts. -/
inductive Guard where
  /-- listeners -/
  | listener
  /-- streams -/
  | stream
  /-- all -/
  | any
deriving DecidableEq, Repr

/-- Whether a guard accepts a resource. -/
def Guard.accepts : Guard → Resource → Bool
  | listener, r => r.isListener
  | stream, r => r.isStream
  | any, _ => true

/-- An operation on a table. -/
inductive TableStep where
  /-- adds a new resource -/
  | add (spec : Resource.Spec)
  /-- asks whether there is a resource -/
  | has (rid : Int)
  /-- looks at a resource -/
  | get (rid : Int) (guard : Guard) (expected : Option String)
  /-- takes a resource -/
  | take (rid : Int) (guard : Guard) (expected : Option String)
  /-- takes a listener -/
  | takeListener (rid : Int)
  /-- takes a stream -/
  | takeStream (rid : Int)
  /-- closes a resource -/
  | close (rid : Int)

/-- The call that an operation makes, and the machine with what is made for it. -/
def TableStep.call (m : Machine) : TableStep → TableCall × Machine
  | add spec =>
    let r := Resource.make m spec
    (.add r.1, r.2)
  | has rid => (.has rid, m)
  | get rid guard expected => (.get rid guard.accepts expected, m)
  | take rid guard expected => (.take rid guard.accepts expected, m)
  | takeListener rid => (.take rid Resource.isListener (some ResourceTable.listenerKind), m)
  | takeStream rid => (.take rid Resource.isStream (some ResourceTable.streamKind), m)
  | close rid => (.close rid, m)

/-- A table in use: the machine, the table, and every resource that was ever added. -/
structure TableSession where
  /-- the machine -/
  machine : Machine
  /-- the table -/
  table : ResourceTable
  /-- the resources added so far, in order, also those that are gone -/
  added : List Resource

namespace TableSession

/-- A fresh table on a machine. -/
def start (m : Machine) : TableSession := ⟨m, .empty, []⟩

/-- The answer to an operation, and the session after it. -/
def step (s : TableSession) (x : TableStep) : Except Fault TableAnswer × TableSession :=
  let (call, m) := x.call s.machine
  let (answer, m, table) := s.table.call m call
  (answer, ⟨m, table, s.added ++ call.added?.toList⟩)

/-- The answers to operations in a row, each with the session after it. -/
def run (s : TableSession) : List TableStep → List (Except Fault TableAnswer × TableSession)
  | [] => []
  | x :: xs => s.step x :: run (s.step x).2 xs

/-- For each resource added so far, whether it is closed. -/
def closed (s : TableSession) : List Bool := s.added.map fun r => r.isClosed s.machine

end TableSession

end TargetUri
