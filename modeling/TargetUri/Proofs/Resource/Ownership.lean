import TargetUri.Proofs.Resource.History

set_option autoImplicit false

/-!
# Ownership of resources

Whatever calls are made on a fresh table, in whatever order and with whatever numbers, each added
resource is in one place: in the table, with the one taker of its number, or with the one closer of
its number. The invariant behind this (`Ledger`) relates the table to the history of the calls.

## Main definitions

* `TargetUri.TableEvent.added`, `TargetUri.TableEvent.taken`, `TargetUri.TableEvent.closed` — the
  resources that a history adds, and the numbers that it takes and closes.
* `TargetUri.Ledger` — a table that agrees with a history.

## Main results

* `TargetUri.Ledger.snoc` — a call keeps the table in agreement with the history.
* `TargetUri.ResourceTable.linear_ownership` — where each resource is after any calls.
-/

namespace TargetUri

namespace TableEvent

/-- The resources added in a history, in order. -/
def added (h : List TableEvent) : List Resource := h.filterMap added?

/-- The numbers of the resources taken in a history, in order. -/
def taken (h : List TableEvent) : List Int := h.filterMap taken?

/-- The numbers of the resources closed in a history, in order. -/
def closed (h : List TableEvent) : List Int := h.filterMap closed?

/-- How often the resource under a number was removed from the table. -/
def removals (h : List TableEvent) (rid : Int) : Nat := (taken h).count rid + (closed h).count rid

section Concat

variable (h : List TableEvent) {e : TableEvent}

/-- The resources added up to one more event. -/
theorem added_concat {o : Option Resource} (ho : e.added? = o) :
    added (h ++ [e]) = added h ++ o.toList := by
  subst ho
  cases ha : e.added? <;> simp [added, ha]

/-- The numbers taken up to one more event. -/
theorem taken_concat {o : Option Int} (ho : e.taken? = o) :
    taken (h ++ [e]) = taken h ++ o.toList := by
  subst ho
  cases ht : e.taken? <;> simp [taken, ht]

/-- The numbers closed up to one more event. -/
theorem closed_concat {o : Option Int} (ho : e.closed? = o) :
    closed (h ++ [e]) = closed h ++ o.toList := by
  subst ho
  cases hc : e.closed? <;> simp [closed, hc]

/-- An event that removes nothing. -/
theorem removals_concat_of_none (ht : e.taken? = none) (hc : e.closed? = none) :
    removals (h ++ [e]) = removals h := by
  funext rid
  rw [removals, taken_concat h ht, closed_concat h hc, Option.toList_none, List.append_nil,
    List.append_nil, removals]

/-- The events before others have removed no more than all of them. -/
theorem removals_le_append (h' : List TableEvent) (rid : Int) :
    removals h rid ≤ removals (h ++ h') rid := by
  simp only [removals, taken, closed, List.filterMap_append, List.count_append]
  omega

end Concat

end TableEvent

/-- What stands at an index of a list with one more element. -/
theorem getElem?_concat_eq_some_iff {α : Type} {l : List α} {a b : α} {k : Nat} :
    (l ++ [a])[k]? = some b ↔ l[k]? = some b ∨ k = l.length ∧ a = b := by
  rcases Nat.lt_trichotomy k l.length with hk | rfl | hk
  · rw [List.getElem?_append_left hk]
    simp [Nat.ne_of_lt hk]
  · rw [List.getElem?_concat_length]
    simp
  · rw [List.getElem?_eq_none (Nat.le_of_lt hk),
      List.getElem?_eq_none (by rw [List.length_append]; exact hk)]
    simp [Nat.ne_of_gt hk]

open TableEvent

/-- **A table that agrees with a history**: its counter with the number of resources added, and its
entries with those of them whose number has been removed at no time. -/
structure Ledger (h : List TableEvent) (t : ResourceTable) : Prop where
  /-- the counter is the number of resources added -/
  next_eq : t.next = (added h).length
  /-- numbers were given out in order -/
  issued_eq : h.filterMap issued? = List.range (added h).length
  /-- the entries are the resources that have not been removed -/
  mem_entries : ∀ (k : Nat) (r : Resource),
    (k, r) ∈ t.entries ↔ (added h)[k]? = some r ∧ removals h k = 0
  /-- the numbers of the entries ascend -/
  ascending : (t.entries.map (·.1)).Pairwise (· < ·)
  /-- nothing is removed twice -/
  removals_le_one : ∀ rid, removals h rid ≤ 1
  /-- only what was added is removed -/
  issued_of_removals : ∀ rid, removals h rid ≠ 0 → ∃ k < (added h).length, (k : Int) = rid
  /-- each resource is in the table or has been removed -/
  size_eq : t.size + (taken h).length + (closed h).length = (added h).length
  /-- who takes a number gets the resource that was added under it -/
  answer_taken : ∀ e ∈ h, ∀ rid, e.taken? = some rid →
    ∃ (k : Nat) (r : Resource), (k : Int) = rid ∧ (added h)[k]? = some r ∧ e.answer = .ok (.found r)

namespace Ledger

variable {h : List TableEvent} {t : ResourceTable} {e : TableEvent}

/-- The table without resources agrees with the history without calls. -/
theorem empty : Ledger [] .empty where
  next_eq := rfl
  issued_eq := rfl
  mem_entries k r := by simp [ResourceTable.empty, added]
  ascending := List.Pairwise.nil
  removals_le_one rid := by simp [removals, taken, closed]
  issued_of_removals rid h := absurd rfl h
  size_eq := rfl
  answer_taken e he := by simp at he

/-! ### Look-up -/

/-- What is in the table under a number is what was added under it. -/
theorem find?_eq_some_iff (hl : Ledger h t) {rid : Int} {r : Resource} :
    t.find? rid = some r ↔
      ∃ k : Nat, (k : Int) = rid ∧ (added h)[k]? = some r ∧ removals h k = 0 := by
  simp only [ResourceTable.find?_eq_some_iff hl.ascending, hl.mem_entries]

/-- Nothing is in the table under a number that was removed. -/
theorem find?_eq_none (hl : Ledger h t) {rid : Int} (hr : removals h rid ≠ 0) :
    t.find? rid = none := by
  rw [ResourceTable.find?_eq_none_iff]
  rintro ⟨k, r⟩ hmem rfl
  exact hr ((hl.mem_entries k r).mp hmem).2

/-- An entry has a number that was given out. -/
theorem lt_of_mem_entries (hl : Ledger h t) {x : Nat × Resource} (hx : x ∈ t.entries) :
    x.1 < (added h).length :=
  (List.getElem?_eq_some_iff.mp ((hl.mem_entries x.1 x.2).mp hx).1).1

/-! ### One more call -/

/-- Who took a number has the resource added under it, also after one more call. -/
theorem answer_taken_snoc (hl : Ledger h t) {rs : List Resource}
    (hrs : ∀ (k : Nat) (r : Resource), (added h)[k]? = some r → rs[k]? = some r)
    (he : ∀ rid, e.taken? = some rid →
      ∃ (k : Nat) (r : Resource), (k : Int) = rid ∧ rs[k]? = some r ∧ e.answer = .ok (.found r)) :
    ∀ x ∈ h ++ [e], ∀ rid, x.taken? = some rid → ∃ (k : Nat) (r : Resource),
      (k : Int) = rid ∧ rs[k]? = some r ∧ x.answer = .ok (.found r) := by
  intro x hx rid hrid
  rcases List.mem_append.mp hx with hx | hx
  · obtain ⟨k, r, hk, hget, hans⟩ := hl.answer_taken x hx rid hrid
    exact ⟨k, r, hk, hrs k r hget, hans⟩
  · obtain rfl := List.mem_singleton.mp hx
    exact he rid hrid

/-- A call that leaves the table as it is. -/
theorem kept (hl : Ledger h t) (hadded : e.added? = none) (hissued : e.issued? = none)
    (htaken : e.taken? = none) (hclosed : e.closed? = none) : Ledger (h ++ [e]) t := by
  have ha : added (h ++ [e]) = added h := by simpa using added_concat h hadded
  have ht : taken (h ++ [e]) = taken h := by simpa using taken_concat h htaken
  have hc : closed (h ++ [e]) = closed h := by simpa using closed_concat h hclosed
  have hr := removals_concat_of_none h htaken hclosed
  constructor
  case next_eq => rw [ha, hl.next_eq]
  case issued_eq => simp [ha, hissued, hl.issued_eq]
  case mem_entries =>
    rw [ha, hr]
    exact hl.mem_entries
  case ascending => exact hl.ascending
  case removals_le_one =>
    rw [hr]
    exact hl.removals_le_one
  case issued_of_removals =>
    rw [ha, hr]
    exact hl.issued_of_removals
  case size_eq => rw [ha, ht, hc, hl.size_eq]
  case answer_taken =>
    rw [ha]
    exact hl.answer_taken_snoc (fun _ _ => id) fun rid hrid => by simp [htaken] at hrid

/-- A call that adds a resource. -/
theorem add (hl : Ledger h t) {r : Resource} (hadded : e.added? = some r)
    (hissued : e.issued? = some t.next) (htaken : e.taken? = none) (hclosed : e.closed? = none) :
    Ledger (h ++ [e]) (t.add r).2 := by
  have ha : added (h ++ [e]) = added h ++ [r] := added_concat h hadded
  have ht : taken (h ++ [e]) = taken h := by simpa using taken_concat h htaken
  have hc : closed (h ++ [e]) = closed h := by simpa using closed_concat h hclosed
  have hr := removals_concat_of_none h htaken hclosed
  have hentries : (t.add r).2.entries = t.entries ++ [((added h).length, r)] := by
    rw [← hl.next_eq]
    rfl
  -- a number that was not given out has not been removed either
  have hfresh : removals h ((added h).length : Nat) = 0 := by
    refine Decidable.byContradiction fun hne => ?_
    obtain ⟨k, hk, heq⟩ := hl.issued_of_removals _ hne
    omega
  constructor
  case next_eq =>
    rw [ha, List.length_append, ← hl.next_eq]
    rfl
  case issued_eq =>
    rw [List.filterMap_append, hl.issued_eq, ha, List.length_append, List.length_singleton,
      List.range_succ, ← hl.next_eq]
    simp [hissued]
  case mem_entries =>
    intro k r'
    rw [hentries, ha, hr, List.mem_append, hl.mem_entries, List.mem_singleton, Prod.mk.injEq,
      getElem?_concat_eq_some_iff]
    constructor
    · rintro (⟨hget, hz⟩ | ⟨rfl, rfl⟩)
      · exact ⟨Or.inl hget, hz⟩
      · exact ⟨Or.inr ⟨rfl, rfl⟩, hfresh⟩
    · rintro ⟨hget | ⟨rfl, rfl⟩, hz⟩
      · exact Or.inl ⟨hget, hz⟩
      · exact Or.inr ⟨rfl, rfl⟩
  case ascending =>
    rw [hentries, List.map_append, List.pairwise_append]
    refine ⟨hl.ascending, by simp, ?_⟩
    intro a ha b hb
    obtain ⟨x, hx, rfl⟩ := List.mem_map.mp ha
    obtain rfl : b = (added h).length := by simpa using hb
    exact hl.lt_of_mem_entries hx
  case removals_le_one =>
    rw [hr]
    exact hl.removals_le_one
  case issued_of_removals =>
    rw [ha, hr]
    intro rid hne
    obtain ⟨k, hk, heq⟩ := hl.issued_of_removals rid hne
    have hlt : k < (added h ++ [r]).length := by
      rw [List.length_append]
      omega
    exact ⟨k, hlt, heq⟩
  case size_eq =>
    have hsize : t.entries.length + (taken h).length + (closed h).length = (added h).length :=
      hl.size_eq
    rw [ha, ht, hc, ResourceTable.size, hentries, List.length_append, List.length_append,
      List.length_singleton, List.length_singleton]
    omega
  case answer_taken =>
    rw [ha]
    refine hl.answer_taken_snoc (fun k r' hget => ?_) fun rid hrid => by simp [htaken] at hrid
    exact getElem?_concat_eq_some_iff.mpr (Or.inl hget)

/-- A call that removes a resource. -/
theorem remove (hl : Ledger h t) {rid : Int} {r : Resource} (hfound : t.find? rid = some r)
    (hadded : e.added? = none) (hissued : e.issued? = none)
    (hremovals : ∀ i, removals (h ++ [e]) i = removals h i + [rid].count i)
    (hlength : (taken (h ++ [e])).length + (closed (h ++ [e])).length =
      (taken h).length + (closed h).length + 1)
    (hanswer : ∀ i, e.taken? = some i → i = rid ∧ e.answer = .ok (.found r)) :
    Ledger (h ++ [e]) (t.remove rid) := by
  have ha : added (h ++ [e]) = added h := by simpa using added_concat h hadded
  obtain ⟨k, rfl, hget, hzero⟩ := hl.find?_eq_some_iff.mp hfound
  have hself : removals (h ++ [e]) k = 1 := by
    rw [hremovals, hzero, List.count_singleton_self]
  have hother : ∀ i, i ≠ (k : Int) → removals (h ++ [e]) i = removals h i := by
    intro i hi
    rw [hremovals, List.count_eq_zero.mpr (by simpa using hi), Nat.add_zero]
  constructor
  case next_eq =>
    rw [ha, ← hl.next_eq]
    rfl
  case issued_eq => simp [ha, hissued, hl.issued_eq]
  case mem_entries =>
    intro j r'
    rw [ResourceTable.remove, List.mem_filter, hl.mem_entries, ha]
    by_cases hj : (j : Int) = k
    · simp [hj, hself]
    · simp [hj, hother j hj]
  case ascending => exact hl.ascending.sublist (List.filter_sublist.map _)
  case removals_le_one =>
    intro i
    by_cases hi : i = (k : Int)
    · exact Nat.le_of_eq (by rw [hi, hself])
    · rw [hother i hi]
      exact hl.removals_le_one i
  case issued_of_removals =>
    intro i hne
    rw [ha]
    by_cases hi : i = (k : Int)
    · exact ⟨k, (List.getElem?_eq_some_iff.mp hget).1, hi.symm⟩
    · rw [hother i hi] at hne
      exact hl.issued_of_removals i hne
  case size_eq =>
    have hsize := hl.size_eq
    have hrest := ResourceTable.size_remove hl.ascending hfound
    rw [ha]
    omega
  case answer_taken =>
    rw [ha]
    refine hl.answer_taken_snoc (fun _ _ => id) fun i hi => ?_
    obtain ⟨rfl, hans⟩ := hanswer i hi
    exact ⟨k, r, rfl, hget, hans⟩

/-- **A call keeps the table in agreement with the history.** -/
theorem snoc (hl : Ledger h t) (m : Machine) (c : TableCall) :
    Ledger (h ++ [.of m t c]) (TableEvent.of m t c).after := by
  cases TableEvent.outcome m t c with
  | kept after added issued taken closed =>
    rw [after]
    exact hl.kept added issued taken closed
  | added r after added issued taken closed =>
    rw [after]
    exact hl.add added issued taken closed
  | taken rid r found after added issued htaken hclosed answer =>
    rw [after]
    refine hl.remove found added issued (fun i => ?_) ?_ fun i hi => ?_
    · rw [removals, taken_concat h htaken, closed_concat h hclosed, Option.toList_none,
        List.append_nil, Option.toList_some, List.count_append, Nat.add_right_comm, removals]
    · rw [taken_concat h htaken, closed_concat h hclosed, List.length_append, List.length_append]
      exact Nat.add_right_comm _ _ _
    · exact ⟨Option.some.inj (hi.symm.trans htaken), answer⟩
  | closed rid r found after added issued htaken hclosed =>
    rw [after]
    refine hl.remove found added issued (fun i => ?_) ?_ fun i hi => ?_
    · rw [removals, taken_concat h htaken, closed_concat h hclosed, Option.toList_none,
        List.append_nil, Option.toList_some, List.count_append, ← Nat.add_assoc, removals]
    · rw [taken_concat h htaken, closed_concat h hclosed, List.length_append, List.length_append]
      rfl
    · rw [htaken] at hi
      cases hi

/-- **Calls in a row keep the table in agreement with the history.** -/
theorem run (hl : Ledger h t) (calls : List (Machine × TableCall)) :
    Ledger (h ++ t.history calls) (t.afterCalls calls) := by
  induction calls generalizing h t with
  | nil => simpa [ResourceTable.history, ResourceTable.afterCalls] using hl
  | cons c calls ih =>
    simpa [ResourceTable.history, ResourceTable.afterCalls] using ih (hl.snoc c.1 c.2)

/-- A removed number is found by no later call that asks for it. -/
theorem not_found (hl : Ledger h t) {rid : Int} (hr : removals h rid ≠ 0)
    {calls : List (Machine × TableCall)} (he : e ∈ t.history calls) (hask : e.call.AsksFor rid) :
    e.answer = .error (.badResource rid .notFound none) := by
  obtain ⟨earlier, m, c, -, rfl⟩ := ResourceTable.exists_of_mem_history he
  -- what was removed by now was removed also after the calls before this one
  have hlater : removals (h ++ t.history earlier) rid ≠ 0 := by
    have hle := removals_le_append h (t.history earlier) rid
    omega
  have hfind := (hl.run earlier).find?_eq_none hlater
  exact congrArg Prod.fst (ResourceTable.call_of_find?_eq_none hfind m hask)

/-- Where the resource added under a number is: in the table, taken once, or closed once. -/
theorem custody (hl : Ledger h t) {rid : Nat} {r : Resource} (hr : (added h)[rid]? = some r) :
    (t.find? rid = some r ∧ (taken h).count (rid : Int) = 0 ∧ (closed h).count (rid : Int) = 0) ∨
    (t.find? rid = none ∧ (taken h).count (rid : Int) = 1 ∧ (closed h).count (rid : Int) = 0) ∨
    (t.find? rid = none ∧ (taken h).count (rid : Int) = 0 ∧ (closed h).count (rid : Int) = 1) := by
  have hone := hl.removals_le_one rid
  by_cases hz : removals h rid = 0
  · have hfind : t.find? rid = some r := hl.find?_eq_some_iff.mpr ⟨rid, rfl, hr, hz⟩
    rw [removals] at hz
    exact Or.inl ⟨hfind, by omega, by omega⟩
  · have hfind : t.find? rid = none := hl.find?_eq_none hz
    rw [removals] at hz hone
    simp only [hfind, true_and, reduceCtorEq, false_and, false_or]
    omega

/-- The names in a table are those of the resources that are left. -/
theorem mem_names (hl : Ledger h t) {rid : Nat} {name : String} :
    (rid, name) ∈ t.names ↔ ∃ r, (added h)[rid]? = some r ∧ (rid : Int) ∉ taken h ∧
      (rid : Int) ∉ closed h ∧ r.name = name := by
  have hzero : removals h rid = 0 ↔ (rid : Int) ∉ taken h ∧ (rid : Int) ∉ closed h := by
    rw [removals, Nat.add_eq_zero_iff, List.count_eq_zero, List.count_eq_zero]
  constructor
  · intro hmem
    obtain ⟨⟨k, r⟩, he, heq⟩ := List.mem_map.mp hmem
    obtain ⟨rfl, rfl⟩ := Prod.mk.inj heq
    obtain ⟨hget, hz⟩ := (hl.mem_entries k r).mp he
    exact ⟨r, hget, (hzero.mp hz).1, (hzero.mp hz).2, rfl⟩
  · rintro ⟨r, hget, ht, hc, rfl⟩
    exact List.mem_map.mpr ⟨(rid, r), (hl.mem_entries rid r).mpr ⟨hget, hzero.mpr ⟨ht, hc⟩⟩, rfl⟩

end Ledger

/-- **Linear ownership.** After any calls on a fresh table, made with any numbers, guards and
resources while the machine changes in any way: numbers were given out in order, none twice; the
resource added under a number is in the table, or was taken once, or was closed once; a number that
was taken or closed is found by no later call, and its taker got the resource added under it; the
size is the number of resources added less those taken and closed; the names are those of the
resources that are left, in ascending order of their numbers.

**Proof sketch.** The table agrees with the history of its calls (`Ledger`): the fresh table does,
and one call keeps it so, whether it leaves the table alone, adds a resource or removes one. Each
part is read off the agreement. -/
theorem ResourceTable.linear_ownership (calls : List (Machine × TableCall)) :
    let h := ResourceTable.empty.history calls
    let t := ResourceTable.empty.afterCalls calls
    h.filterMap issued? = List.range (added h).length ∧
    (∀ (rid : Nat) (r : Resource), (added h)[rid]? = some r →
      (t.find? rid = some r ∧ (taken h).count (rid : Int) = 0 ∧ (closed h).count (rid : Int) = 0) ∨
      (t.find? rid = none ∧ (taken h).count (rid : Int) = 1 ∧ (closed h).count (rid : Int) = 0) ∨
      (t.find? rid = none ∧ (taken h).count (rid : Int) = 0 ∧ (closed h).count (rid : Int) = 1)) ∧
    (∀ rid, rid ∈ taken h ∨ rid ∈ closed h → ∀ later, ∀ e ∈ t.history later,
      e.call.AsksFor rid → e.answer = .error (.badResource rid .notFound none)) ∧
    (∀ e ∈ h, ∀ rid, e.taken? = some rid → ∃ (k : Nat) (r : Resource),
      (k : Int) = rid ∧ (added h)[k]? = some r ∧ e.answer = .ok (.found r)) ∧
    t.size + (taken h).length + (closed h).length = (added h).length ∧
    (∀ (rid : Nat) (name : String), (rid, name) ∈ t.names ↔ ∃ r, (added h)[rid]? = some r ∧
      (rid : Int) ∉ taken h ∧ (rid : Int) ∉ closed h ∧ r.name = name) ∧
    (t.names.map (·.1)).Pairwise (· < ·) := by
  intro h t
  have hl : Ledger h t := Ledger.empty.run calls
  refine ⟨hl.issued_eq, fun rid r => hl.custody, ?_, hl.answer_taken, hl.size_eq,
    fun rid name => hl.mem_names, ?_⟩
  · intro rid hrid later e he hask
    refine hl.not_found ?_ he hask
    rcases hrid with hrid | hrid
    · have hpos := List.count_pos_iff.mpr hrid
      rw [removals]
      omega
    · have hpos := List.count_pos_iff.mpr hrid
      rw [removals]
      omega
  · rw [ResourceTable.names, List.map_map]
    exact hl.ascending

end TargetUri
