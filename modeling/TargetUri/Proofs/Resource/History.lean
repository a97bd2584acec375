import TargetUri.Resource.Table

set_option autoImplicit false

/-!
# Histories of a resource table

Calls in a row, each with the table before and after it, and what one call can do: leave the table
as it is, add one resource, or remove one. The machine may change between calls in any way.

## Main definitions

* `TargetUri.TableEvent` — a call that was made, its answer, and the table before and after it.
* `TargetUri.ResourceTable.history`, `TargetUri.ResourceTable.afterCalls` — the events of calls in a
  row, and the table after them.
* `TargetUri.TableEvent.added?`, `TargetUri.TableEvent.issued?`, `TargetUri.TableEvent.taken?`,
  `TargetUri.TableEvent.closed?` — what an event adds to the table and removes from it.

## Main results

* `TargetUri.TableEvent.outcome` — what one call can do.
* `TargetUri.ResourceTable.find?_eq_some_iff`, `TargetUri.ResourceTable.remove_eq_of_find?` —
  look-up and removal, for a table in which each number stands for one resource.
-/

namespace TargetUri

/-- A call that was made on a table. -/
structure TableEvent where
  /-- the call -/
  call : TableCall
  /-- the table before it -/
  before : ResourceTable
  /-- its answer -/
  answer : Except Fault TableAnswer
  /-- the table after it -/
  after : ResourceTable

namespace TableEvent

/-- The event of a call on a machine and a table. -/
def of (m : Machine) (t : ResourceTable) (c : TableCall) : TableEvent :=
  ⟨c, t, (t.call m c).1, (t.call m c).2.2⟩

/-- The resource that an event is to add. -/
def added? (e : TableEvent) : Option Resource := e.call.added?

/-- The number that is given to an added resource. -/
def issued? (e : TableEvent) : Option Nat :=
  match e.call, e.answer with
  | .add _, .ok (.added rid) => some rid
  | _, _ => none

/-- The number of a resource that is taken. -/
def taken? (e : TableEvent) : Option Int :=
  match e.call, e.answer with
  | .take rid _ _, .ok _ => some rid
  | _, _ => none

/-- Whether a call answers in the words of a look-up that finds nothing. -/
def missed (e : TableEvent) : Bool :=
  match e.answer with
  | .error (.badResource _ .notFound _) => true
  | _ => false

/-- The number of a resource that is closed, whether closing it succeeds or not. Which closes count
is read off their answers and not off the table after them: all but those that missed. A resource
may itself fail to be closed in those words, and a close that fails so counts. -/
def closed? (e : TableEvent) : Option Int :=
  match e.call with
  | .close rid => if e.missed && !e.before.has rid then none else some rid
  | _ => none

end TableEvent

/-- A call that looks for the resource under a number, takes it or closes it. -/
def TableCall.AsksFor (rid : Int) : TableCall → Prop
  | .get rid' _ _ => rid' = rid
  | .take rid' _ _ => rid' = rid
  | .close rid' => rid' = rid
  | _ => False

namespace ResourceTable

/-- The events of calls in a row, each made on a machine of its own. -/
def history (t : ResourceTable) : List (Machine × TableCall) → List TableEvent
  | [] => []
  | (m, c) :: cs => .of m t c :: history (TableEvent.of m t c).after cs

/-- The table after calls in a row. -/
def afterCalls (t : ResourceTable) : List (Machine × TableCall) → ResourceTable
  | [] => t
  | (m, c) :: cs => afterCalls (TableEvent.of m t c).after cs

/-- An event of calls in a row is that of one of them, made on the table that the calls before it
left. -/
theorem exists_of_mem_history {t : ResourceTable} {cs : List (Machine × TableCall)} {e : TableEvent}
    (he : e ∈ t.history cs) :
    ∃ ds m c, ds ++ [(m, c)] <+: cs ∧ e = .of m (t.afterCalls ds) c := by
  induction cs generalizing t with
  | nil => simp [history] at he
  | cons x cs ih =>
    rcases List.mem_cons.mp he with rfl | he
    · exact ⟨[], x.1, x.2, by simp, rfl⟩
    · obtain ⟨ds, m, c, hpre, rfl⟩ := ih he
      exact ⟨x :: ds, m, c, by simpa using hpre, rfl⟩

/-! ## Look-up -/

/-- Nothing is found under a number that no entry has. -/
theorem find?_eq_none_iff {t : ResourceTable} {rid : Int} :
    t.find? rid = none ↔ ∀ e ∈ t.entries, (e.1 : Int) ≠ rid := by
  rw [find?, Option.map_eq_none_iff, List.find?_eq_none]
  simp

/-- What is found under a number is an entry that has it. -/
theorem exists_mem_of_find? {t : ResourceTable} {rid : Int} {r : Resource}
    (h : t.find? rid = some r) : ∃ k : Nat, (k : Int) = rid ∧ (k, r) ∈ t.entries := by
  obtain ⟨⟨k, r'⟩, he, rfl⟩ := Option.map_eq_some_iff.mp h
  exact ⟨k, by simpa using List.find?_some he, List.mem_of_find?_eq_some he⟩

/-- **Look-up finds the entries**, where the numbers ascend and so belong to one entry each. -/
theorem find?_eq_some_iff {t : ResourceTable} (h : (t.entries.map (·.1)).Pairwise (· < ·))
    {rid : Int} {r : Resource} :
    t.find? rid = some r ↔ ∃ k : Nat, (k : Int) = rid ∧ (k, r) ∈ t.entries := by
  refine ⟨exists_mem_of_find?, ?_⟩
  rintro ⟨k, rfl, hk⟩
  cases hf : t.find? (k : Int) with
  | none => exact absurd rfl (find?_eq_none_iff.mp hf _ hk)
  | some r' =>
    obtain ⟨k', hk', hmem⟩ := exists_mem_of_find? hf
    obtain rfl : k' = k := Int.ofNat.inj hk'
    -- of two entries in a row the later has the greater number, so a number has one entry
    have hone : t.entries.Pairwise fun x y => x.1 = y.1 → x.2 = y.2 :=
      (List.pairwise_map.mp h).imp fun hlt heq => absurd heq (Nat.ne_of_lt hlt)
    have hflip : t.entries.Pairwise (flip fun x y => x.1 = y.1 → x.2 = y.2) :=
      (List.pairwise_map.mp h).imp fun hlt heq => absurd heq.symm (Nat.ne_of_lt hlt)
    exact congrArg some (hone.forall_of_forall_of_flip (fun _ _ _ => rfl) hflip hmem hk rfl)

/-- Nothing is found under a number that was removed. -/
@[simp] theorem find?_remove_self (t : ResourceTable) (rid : Int) :
    (t.remove rid).find? rid = none := by
  rw [find?_eq_none_iff]
  intro e he
  simpa using (List.mem_filter.mp he).2

/-- Removing what is under a number leaves what is under the others. -/
theorem find?_remove_of_ne (t : ResourceTable) {rid rid' : Int} (h : rid' ≠ rid) :
    (t.remove rid).find? rid' = t.find? rid' := by
  rw [find?, find?, remove, List.find?_filter]
  refine congrArg (fun p => (t.entries.find? p).map (·.2)) (funext fun e => ?_)
  -- an entry that is looked for is not among those that are removed
  by_cases he : (e.1 : Int) = rid'
  · simp [he, h]
  · simp [he]

/-- **Removing what is found under a number** takes one entry out of the table and leaves the others
in their order, where the numbers ascend and so no other entry has that number. -/
theorem remove_eq_of_find? {t : ResourceTable} (h : (t.entries.map (·.1)).Pairwise (· < ·))
    {rid : Int} {r : Resource} (hfound : t.find? rid = some r) :
    ∃ (before : List (Nat × Resource)) (k : Nat) (after : List (Nat × Resource)),
      (k : Int) = rid ∧ t.entries = before ++ (k, r) :: after ∧
      t.remove rid = ⟨t.next, before ++ after⟩ := by
  obtain ⟨k, rfl, hmem⟩ := exists_mem_of_find? hfound
  obtain ⟨before, after, hsplit⟩ := List.append_of_mem hmem
  refine ⟨before, k, after, rfl, hsplit, ?_⟩
  rw [List.pairwise_map, hsplit, List.pairwise_append] at h
  obtain ⟨-, hafter, hbefore⟩ := h
  have hkept : ∀ e ∈ before ++ after, ((e.1 : Int) != k) = true := by
    intro e he
    rw [bne_iff_ne]
    rcases List.mem_append.mp he with he | he
    · have hlt := hbefore e he (k, r) List.mem_cons_self
      dsimp only at hlt
      omega
    · have hlt := List.rel_of_pairwise_cons hafter he
      dsimp only at hlt
      omega
  rw [remove, hsplit, List.filter_append, List.filter_cons_of_neg (by simp),
    ← List.filter_append, List.filter_eq_self.mpr hkept]

/-- Removing what is found under a number leaves one resource fewer. -/
theorem size_remove {t : ResourceTable} (h : (t.entries.map (·.1)).Pairwise (· < ·)) {rid : Int}
    {r : Resource} (hfound : t.find? rid = some r) : (t.remove rid).size + 1 = t.size := by
  obtain ⟨before, k, after, -, hsplit, hremove⟩ := remove_eq_of_find? h hfound
  rw [size, size, hremove, hsplit, List.length_append, List.length_append, List.length_cons]
  omega

/-! ## One call -/

/-- A call that asks for a number under which nothing is found fails and changes nothing. -/
theorem call_of_find?_eq_none {t : ResourceTable} {rid : Int} (h : t.find? rid = none)
    (m : Machine) {c : TableCall} (hc : c.AsksFor rid) :
    t.call m c = (.error (.badResource rid .notFound none), m, t) := by
  cases c with
  | add r => exact hc.elim
  | has rid' => exact hc.elim
  | get rid' guard expected =>
    obtain rfl : rid' = rid := hc
    simp only [call, get, h]
    rfl
  | take rid' guard expected =>
    obtain rfl : rid' = rid := hc
    simp only [call, take, get, h]
    rfl
  | close rid' =>
    obtain rfl : rid' = rid := hc
    simp only [call, close, h]
    rfl

section Found

variable {t : ResourceTable} {rid : Int} {r : Resource} (h : t.find? rid = some r) (m : Machine)
  {guard : Resource → Bool} (expected : Option String)

include h

/-- Taking a resource of the kind asked for. -/
theorem call_take_of_guard (hg : guard r = true) :
    t.call m (.take rid guard expected) = (.ok (.found r), m, t.remove rid) := by
  simp only [call, take, get, h, if_pos hg]
  rfl

/-- Taking a resource of another kind. -/
theorem call_take_of_not_guard (hg : guard r = false) :
    t.call m (.take rid guard expected) = (.error (.badResource rid .wrongKind expected), m, t) := by
  simp only [call, take, get, h, hg]
  rfl

/-- Closing a resource. -/
theorem call_close_of_find? :
    t.call m (.close rid) = ((r.close m).1.map fun _ => .closed, (r.close m).2, t.remove rid) := by
  simp only [call, close, h]

end Found

end ResourceTable

/-- What one call can do. -/
inductive TableEvent.Outcome (e : TableEvent) : Prop where
  /-- the table is as it was -/
  | kept (after : e.after = e.before) (added : e.added? = none) (issued : e.issued? = none)
      (taken : e.taken? = none) (closed : e.closed? = none)
  /-- a resource was added under the next number -/
  | added (r : Resource) (after : e.after = (e.before.add r).2) (added : e.added? = some r)
      (issued : e.issued? = some e.before.next) (taken : e.taken? = none)
      (closed : e.closed? = none)
  /-- a resource was taken -/
  | taken (rid : Int) (r : Resource) (found : e.before.find? rid = some r)
      (after : e.after = e.before.remove rid) (added : e.added? = none) (issued : e.issued? = none)
      (taken : e.taken? = some rid) (closed : e.closed? = none) (answer : e.answer = .ok (.found r))
  /-- a resource was removed to be closed -/
  | closed (rid : Int) (r : Resource) (found : e.before.find? rid = some r)
      (after : e.after = e.before.remove rid) (added : e.added? = none) (issued : e.issued? = none)
      (taken : e.taken? = none) (closed : e.closed? = some rid)

/-- **What one call can do**: nothing to the table, add a resource, or remove one. -/
theorem TableEvent.outcome (m : Machine) (t : ResourceTable) (c : TableCall) :
    (TableEvent.of m t c).Outcome := by
  cases c with
  | add r => exact .added r rfl rfl rfl rfl rfl
  | has rid => exact .kept rfl rfl rfl rfl rfl
  | get rid guard expected => exact .kept rfl rfl rfl rfl rfl
  | take rid guard expected =>
    cases hf : t.find? rid with
    | none =>
      have hcall := ResourceTable.call_of_find?_eq_none hf m (c := .take rid guard expected) rfl
      refine .kept ?_ rfl ?_ ?_ rfl <;> simp [of, issued?, taken?, hcall]
    | some r =>
      cases hg : guard r with
      | true =>
        have hcall := ResourceTable.call_take_of_guard hf m expected hg
        refine .taken rid r hf ?_ rfl ?_ ?_ rfl ?_ <;> simp [of, issued?, taken?, hcall]
      | false =>
        have hcall := ResourceTable.call_take_of_not_guard hf m expected hg
        refine .kept ?_ rfl ?_ ?_ rfl <;> simp [of, issued?, taken?, hcall]
  | close rid =>
    cases hf : t.find? rid with
    | none =>
      have hcall := ResourceTable.call_of_find?_eq_none hf m (c := .close rid) rfl
      refine .kept ?_ rfl rfl rfl ?_ <;> simp [of, closed?, missed, hcall, ResourceTable.has, hf]
    | some r =>
      have hcall := ResourceTable.call_close_of_find? hf m
      refine .closed rid r hf ?_ rfl rfl rfl ?_ <;> simp [of, closed?, hcall, ResourceTable.has, hf]

end TargetUri
