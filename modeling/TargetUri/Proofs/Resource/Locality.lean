import TargetUri.Proofs.Resource.Ownership

set_option autoImplicit false

/-!
# Numbers are independent of each other

What a call for a number answers and does depends on what is under that number alone. So calls that
are made in a row on one machine can be told apart by their numbers: those for one number answer as
if the others had not been made, in whatever order they come.

## Main definitions

* `TargetUri.TableCall.rid?` — the number that a call is for.
* `TargetUri.ResourceTable.callAll` — calls in a row on one machine.
* `TargetUri.answersOf` — the answers to some of the calls.

## Main results

* `TargetUri.ResourceTable.call_congr` — a call does the same on tables with the same under its
  number.
* `TargetUri.ResourceTable.callAll_filterMap` — calls that leave something alone may be left out.
* `TargetUri.ResourceTable.callAll_local` — calls for a number depend on the calls for it alone.
-/

namespace TargetUri

/-- The number that a call is for. Adding a resource is for none. -/
def TableCall.rid? : TableCall → Option Int
  | .add _ => none
  | .has rid => some rid
  | .get rid _ _ => some rid
  | .take rid _ _ => some rid
  | .close rid => some rid

namespace TableCall

/-- A call, if it is for a number. -/
def ifFor (rid : Int) (c : TableCall) : Option TableCall :=
  if c.rid? = some rid then some c else none

variable {rid : Int} {c d : TableCall}

/-- What is picked out is a call for the number. -/
theorem ifFor_eq_some_iff : c.ifFor rid = some d ↔ c.rid? = some rid ∧ c = d := by
  rw [ifFor, Option.ite_none_right_eq_some, Option.some_inj]

/-- What is left out is a call for another number, or for none. -/
theorem ifFor_eq_none_iff : c.ifFor rid = none ↔ c.rid? ≠ some rid := by
  simp [ifFor]

end TableCall

/-- The answers to those of several calls that a function picks out. -/
def answersOf {α β γ : Type} (f : α → Option β) (answers : List (α × γ)) : List (β × γ) :=
  answers.filterMap fun a => (f a.1).map (·, a.2)

/-- Whether closing a resource fails does not depend on the machine. -/
theorem Resource.close_fst_congr (m m' : Machine) (r : Resource) :
    (r.close m).1 = (r.close m').1 := by
  cases r with
  | foreign flag name members closeFault => cases closeFault <;> rfl
  | memoryListener | memoryStream | server | socket => rfl

namespace ResourceTable

variable {t t' : ResourceTable} {rid rid' : Int} {c : TableCall}

/-! ## One call -/

/-- Two tables after calls for a number: both as they were, or both without that number. -/
def BothLose (t t' : ResourceTable) (rid : Int) (after after' : ResourceTable) : Prop :=
  (after = t ∧ after' = t') ∨ (after = t.remove rid ∧ after' = t'.remove rid)

/-- **A call for a number does the same on tables with the same under it**: it gives the same answer
and has the same effect on a machine, and both tables lose what is under the number, or neither. -/
theorem call_congr (hc : c.rid? = some rid) (h : t.find? rid = t'.find? rid) (m m' : Machine) :
    (t.call m c).1 = (t'.call m' c).1 ∧ (m = m' → (t.call m c).2.1 = (t'.call m' c).2.1) ∧
      BothLose t t' rid (t.call m c).2.2 (t'.call m' c).2.2 := by
  cases c with
  | add r => cases hc
  | has i =>
    obtain rfl : i = rid := Option.some.inj hc
    have hhas : t.has i = t'.has i := by rw [has, has, h]
    exact ⟨by rw [call, call, hhas], fun hm => hm, .inl ⟨rfl, rfl⟩⟩
  | get i guard expected =>
    obtain rfl : i = rid := Option.some.inj hc
    have hget : t.get i guard expected = t'.get i guard expected := by rw [get, get, h]
    exact ⟨by rw [call, call, hget], fun hm => hm, .inl ⟨rfl, rfl⟩⟩
  | take i guard expected =>
    obtain rfl : i = rid := Option.some.inj hc
    have hget : t.get i guard expected = t'.get i guard expected := by rw [get, get, h]
    simp only [call, take, hget]
    cases t'.get i guard expected with
    | error f => exact ⟨rfl, fun hm => hm, .inl ⟨rfl, rfl⟩⟩
    | ok r => exact ⟨rfl, fun hm => hm, .inr ⟨rfl, rfl⟩⟩
  | close i =>
    obtain rfl : i = rid := Option.some.inj hc
    cases hf : t'.find? i with
    | none =>
      have hask : (TableCall.close i).AsksFor i := rfl
      rw [call_of_find?_eq_none hf m' hask, call_of_find?_eq_none (h.trans hf) m hask]
      exact ⟨rfl, fun hm => hm, .inl ⟨rfl, rfl⟩⟩
    | some r =>
      rw [call_close_of_find? hf m', call_close_of_find? (h.trans hf) m, r.close_fst_congr m m']
      exact ⟨rfl, fun hm => by rw [hm], .inr ⟨rfl, rfl⟩⟩

/-- What is found under a number that has been given out stays the same when a resource is added. -/
theorem find?_add_of_lt (r : Resource) (h : rid < t.next) :
    (t.add r).2.find? rid = t.find? rid := by
  have hne : ((t.next : Int) == rid) = false := by
    rw [beq_eq_false_iff_ne]
    omega
  rw [find?, find?, add, List.find?_append, List.find?_singleton, hne]
  simp

/-- A call for another number, or for none, leaves what is under a number that has been given
out. -/
theorem find?_call_of_ne (hc : c.rid? ≠ some rid) (h : rid < t.next) (m : Machine) :
    (t.call m c).2.2.find? rid = t.find? rid := by
  cases hn : c.rid? with
  | none =>
    cases c with
    | add r => exact find?_add_of_lt r h
    | _ => cases hn
  | some rid' =>
    have hne : rid ≠ rid' := fun heq => hc (hn.trans (congrArg some heq.symm))
    obtain ⟨-, -, ⟨hkept, -⟩ | ⟨hlost, -⟩⟩ := call_congr hn (t := t) rfl m m
    · rw [hkept]
    · rw [hlost, find?_remove_of_ne t hne]

/-- Numbers that have been given out stay given out. -/
theorem next_le_call (m : Machine) (t : ResourceTable) (c : TableCall) :
    t.next ≤ (t.call m c).2.2.next := by
  cases hn : c.rid? with
  | none =>
    cases c with
    | add r => exact Nat.le_succ t.next
    | _ => cases hn
  | some rid =>
    obtain ⟨-, -, ⟨hkept, -⟩ | ⟨hlost, -⟩⟩ := call_congr hn (t := t) rfl m m
    · exact Nat.le_of_eq (by rw [hkept])
    · exact Nat.le_of_eq (by rw [hlost, remove])

/-! ## Calls in a row -/

/-- The answers to calls in a row, each beside what the call was made for, and the machine and the
table after them. -/
def callAll {α : Type} (call : α → TableCall) (m : Machine) (t : ResourceTable) :
    List α → List (α × Except Fault TableAnswer) × Machine × ResourceTable
  | [] => ([], m, t)
  | x :: xs =>
    let first := t.call m (call x)
    let others := callAll call first.2.1 first.2.2 xs
    ((x, first.1) :: others.1, others.2)

/-- Calls in a row are the first of them and then the others. -/
theorem callAll_append {α : Type} (call : α → TableCall) (m : Machine) (t : ResourceTable)
    (xs ys : List α) :
    callAll call m t (xs ++ ys) =
      let first := callAll call m t xs
      let others := callAll call first.2.1 first.2.2 ys
      (first.1 ++ others.1, others.2) := by
  induction xs generalizing m t with
  | nil => rfl
  | cons x xs ih => simp only [List.cons_append, callAll, ih]

/-- Calls in a row that each give an answer and change nothing. -/
theorem callAll_of_kept {α : Type} {call : α → TableCall} {m : Machine}
    {answer : α → Except Fault TableAnswer} {xs : List α}
    (h : ∀ x ∈ xs, t.call m (call x) = (answer x, m, t)) :
    callAll call m t xs = (xs.map fun x => (x, answer x), m, t) := by
  induction xs with
  | nil => rfl
  | cons x xs ih =>
    obtain ⟨hx, hxs⟩ := List.forall_mem_cons.mp h
    simp only [callAll, hx, ih hxs, List.map_cons]

/-- **Calls that leave something alone may be left out.** If picked calls answer the same where that
something is the same, and keep it the same, and other calls leave it alone, then the picked calls
answer as if they were made alone.

**Proof sketch.** Induction on the calls; what is the same is carried along by the relation. -/
theorem callAll_filterMap {α β : Type} (f : α → Option β) (call : α → TableCall)
    (call' : β → TableCall) {Same : Machine × ResourceTable → Machine × ResourceTable → Prop}
    {xs : List α}
    (hpicked : ∀ x ∈ xs, ∀ y, f x = some y → ∀ s s', Same s s' →
      (s.2.call s.1 (call x)).1 = (s'.2.call s'.1 (call' y)).1 ∧
        Same (s.2.call s.1 (call x)).2 (s'.2.call s'.1 (call' y)).2)
    (hother : ∀ x ∈ xs, f x = none → ∀ s s', Same s s' → Same (s.2.call s.1 (call x)).2 s')
    {s s' : Machine × ResourceTable} (h : Same s s') :
    answersOf f (callAll call s.1 s.2 xs).1 = (callAll call' s'.1 s'.2 (xs.filterMap f)).1 ∧
      Same (callAll call s.1 s.2 xs).2 (callAll call' s'.1 s'.2 (xs.filterMap f)).2 := by
  induction xs generalizing s s' with
  | nil => exact ⟨rfl, h⟩
  | cons x xs ih =>
    obtain ⟨hpick, hpicks⟩ := List.forall_mem_cons.mp hpicked
    obtain ⟨hleave, hleaves⟩ := List.forall_mem_cons.mp hother
    cases hf : f x with
    | none =>
      obtain ⟨hanswers, hsame⟩ := ih hpicks hleaves (hleave hf s s' h)
      rw [List.filterMap_cons_none hf]
      refine ⟨?_, hsame⟩
      rw [← hanswers]
      simp only [callAll, answersOf, List.filterMap_cons, hf, Option.map_none]
    | some y =>
      obtain ⟨hanswer, hnext⟩ := hpick y hf s s' h
      obtain ⟨hanswers, hsame⟩ := ih hpicks hleaves hnext
      rw [List.filterMap_cons_some hf]
      refine ⟨?_, hsame⟩
      simp only [callAll, answersOf, List.filterMap_cons, hf, Option.map_some]
      rw [hanswer, ← hanswers, answersOf]

/-- Two states with the same under a number that has been given out in both. -/
structure SameUnder (rid : Int) (s s' : Machine × ResourceTable) : Prop where
  /-- the same is found -/
  find : s.2.find? rid = s'.2.find? rid
  /-- the number has been given out in the first -/
  left : rid < s.2.next
  /-- the number has been given out in the second -/
  right : rid < s'.2.next

/-- A number that has been given out still has been after a call. -/
theorem lt_next_call {s : Machine × ResourceTable} (h : rid < s.2.next) (c : TableCall) :
    rid < (s.2.call s.1 c).2.2.next := by
  have hle := next_le_call s.1 s.2 c
  omega

/-- A call for the number that states have the same under answers the same, and leaves the same. -/
theorem SameUnder.call {s s' : Machine × ResourceTable} (h : SameUnder rid s s')
    (hc : c.rid? = some rid) :
    (s.2.call s.1 c).1 = (s'.2.call s'.1 c).1 ∧
      SameUnder rid (s.2.call s.1 c).2 (s'.2.call s'.1 c).2 := by
  obtain ⟨hanswer, -, hlose⟩ := call_congr hc h.find s.1 s'.1
  refine ⟨hanswer, ?_, lt_next_call h.left c, lt_next_call h.right c⟩
  rcases hlose with ⟨hkept, hkept'⟩ | ⟨hlost, hlost'⟩
  · rw [hkept, hkept', h.find]
  · rw [hlost, hlost', find?_remove_self, find?_remove_self]

/-- A call for another number, or for none, may be made on one side alone. -/
theorem SameUnder.call_left {s s' : Machine × ResourceTable} (h : SameUnder rid s s')
    (hc : c.rid? ≠ some rid) : SameUnder rid (s.2.call s.1 c).2 s' where
  find := (find?_call_of_ne hc h.left s.1).trans h.find
  left := lt_next_call h.left c
  right := h.right

/-- **Calls for a number depend on the calls for it alone.** Among calls in a row, those for a
number that has been given out answer as if no others were made, and leave the same under the
number. -/
theorem callAll_local {α : Type} (call : α → TableCall) (m : Machine) (h : rid < t.next)
    (xs : List α) :
    let run := callAll call m t xs
    let only := callAll id m t (xs.filterMap fun x => (call x).ifFor rid)
    answersOf (fun x => (call x).ifFor rid) run.1 = only.1 ∧
      run.2.2.find? rid = only.2.2.find? rid := by
  have hstart : SameUnder rid (m, t) (m, t) := ⟨rfl, h, h⟩
  refine (callAll_filterMap (fun x => (call x).ifFor rid) call id ?picked ?other hstart).imp_right
    SameUnder.find
  case picked =>
    intro x _ c hx s s' hsame
    obtain ⟨hfor, rfl⟩ := TableCall.ifFor_eq_some_iff.mp hx
    exact hsame.call hfor
  case other =>
    intro x _ hx s s' hsame
    exact hsame.call_left (TableCall.ifFor_eq_none_iff.mp hx)

end ResourceTable

end TargetUri
