import TargetUri.Proofs.Resource.Locality
import TargetUri.Proofs.Resource.Operations

set_option autoImplicit false

/-!
# Competing takers

Some want to take the resource under a number as a listener, others as a stream, while calls for
other numbers go on in between. No resource counts as both, so the kind of the winner is settled
before anyone calls: the first taker of that kind gets the resource, and all others fail. The calls
for other numbers do not notice.

## Main definitions

* `TargetUri.Taker` — who takes a resource: as a listener, or as a stream.
* `TargetUri.Contest` — a call in a competition for a number.
* `TargetUri.ResourceTable.FirstTakerWins` — how a competition ends.

## Main results

* `TargetUri.Resource.not_isListener_and_isStream` — no resource is both a listener and a stream.
* `TargetUri.ResourceTable.takers_compete` — how any competition ends, in every order.
-/

namespace TargetUri

/-! ## Takers -/

/-- Who takes a resource to serve it. -/
inductive Taker where
  /-- one who serves a listener -/
  | listener
  /-- one who serves a stream -/
  | stream
deriving DecidableEq, Repr

/-- **No resource is both a listener and a stream**: their names are different. -/
theorem Resource.not_isListener_and_isStream (r : Resource) :
    ¬(r.isListener = true ∧ r.isStream = true) := by
  rintro ⟨hlistener, hstream⟩
  simp only [isListener, isStream, Bool.and_eq_true, decide_eq_true_eq] at hlistener hstream
  have hnames : ∀ name ∈ listenerNames, name ∉ streamNames := by decide
  exact hnames r.name hlistener.1.1 hstream.1.1

namespace Taker

/-- The resources that a taker accepts. -/
def accepts : Taker → Resource → Bool
  | listener => Resource.isListener
  | stream => Resource.isStream

/-- What a taker calls the resources that it accepts. -/
def expected : Taker → String
  | listener => ResourceTable.listenerKind
  | stream => ResourceTable.streamKind

/-- The call that a taker makes for a number. -/
def call (rid : Int) (k : Taker) : TableCall := .take rid k.accepts (some k.expected)

/-- The answer to a taker who finds a resource of another kind. -/
def mistaken (rid : Int) (k : Taker) : Except Fault TableAnswer :=
  .error (.badResource rid .wrongKind (some k.expected))

/-- The answer to a taker who finds nothing any more. -/
def tooLate (rid : Int) (_ : Taker) : Except Fault TableAnswer :=
  .error (.badResource rid .notFound none)

end Taker

/-- A call in a competition for a number: that of a taker, or one for anything but this number. -/
inductive Contest (rid : Int) where
  /-- a taker of the number -/
  | taker (k : Taker)
  /-- a call for another number, or one that adds a resource -/
  | other (c : TableCall) (elsewhere : c.rid? ≠ some rid)

namespace Contest

variable {rid : Int}

/-- The call itself. -/
def call : Contest rid → TableCall
  | taker k => k.call rid
  | other c _ => c

/-- The taker who makes a call, if one does. -/
def taker? : Contest rid → Option Taker
  | taker k => some k
  | other .. => none

/-- The call, if it is none of a taker's. -/
def other? : Contest rid → Option TableCall
  | taker _ => none
  | other c _ => some c

/-- The takers in a competition, in the order in which they call. -/
def takers (xs : List (Contest rid)) : List Taker := xs.filterMap taker?

/-- The other calls in a competition, in their order. -/
def others (xs : List (Contest rid)) : List TableCall := xs.filterMap other?

/-- A taker in a competition is among its takers. -/
theorem mem_takers {xs : List (Contest rid)} {k : Taker} (h : taker k ∈ xs) : k ∈ takers xs :=
  List.mem_filterMap.mpr ⟨taker k, h, rfl⟩

end Contest

namespace ResourceTable

variable {t : ResourceTable} {rid : Int} {r : Resource}

/-! ## Takers alone -/

/-- Takers of a resource that none of them accepts all fail, and leave it where it is. -/
theorem callAll_takers_of_not_accepts (m : Machine) (h : t.find? rid = some r) {ks : List Taker}
    (hks : ∀ k ∈ ks, k.accepts r = false) :
    t.callAll (Taker.call rid) m ks = (ks.map fun k => (k, k.mistaken rid), m, t) :=
  callAll_of_kept fun k hk => call_take_of_not_guard h m (some k.expected) (hks k hk)

/-- Takers of a number under which there is nothing all fail. -/
theorem callAll_takers_of_none (m : Machine) (h : t.find? rid = none) (ks : List Taker) :
    t.callAll (Taker.call rid) m ks = (ks.map fun k => (k, k.tooLate rid), m, t) :=
  callAll_of_kept fun k _ => call_of_find?_eq_none h m (c := k.call rid) rfl

/-- **Of several takers the first that accepts the resource gets it.** Those before it are mistaken,
and those after it too late. -/
theorem callAll_takers_of_accepts (m : Machine) (h : t.find? rid = some r) {before : List Taker}
    {k : Taker} (after : List Taker) (hbefore : ∀ j ∈ before, j.accepts r = false)
    (hk : k.accepts r = true) :
    t.callAll (Taker.call rid) m (before ++ k :: after) =
      ((before.map fun j => (j, j.mistaken rid)) ++
        (k, .ok (.found r)) :: after.map fun j => (j, j.tooLate rid), m, t.remove rid) := by
  have htaken : t.call m (k.call rid) = (.ok (.found r), m, t.remove rid) :=
    call_take_of_guard h m (some k.expected) hk
  have hlate := callAll_takers_of_none m (find?_remove_self t rid) after
  rw [callAll_append, callAll_takers_of_not_accepts m h hbefore]
  simp only [callAll, htaken, hlate]

/-! ## Takers among others -/

/-- What is removed is removed, in whatever order. -/
theorem remove_comm (t : ResourceTable) (rid rid' : Int) :
    (t.remove rid).remove rid' = (t.remove rid').remove rid := by
  simp only [remove, List.filter_filter, Bool.and_comm]

/-- Removing twice is removing once. -/
theorem remove_remove (t : ResourceTable) (rid : Int) :
    (t.remove rid).remove rid = t.remove rid := by
  simp only [remove, List.filter_filter, Bool.and_self]

/-- Removing nothing changes nothing. -/
theorem remove_of_find?_eq_none (h : t.find? rid = none) : t.remove rid = t := by
  have hall : ∀ e ∈ t.entries, ((e.1 : Int) != rid) = true := by
    intro e he
    rw [bne_iff_ne]
    exact find?_eq_none_iff.mp h e he
  rw [remove, List.filter_eq_self.mpr hall]

/-- Two states that are the same but for what is under a number. -/
structure SameBut (rid : Int) (s s' : Machine × ResourceTable) : Prop where
  /-- the machines are the same -/
  machine : s.1 = s'.1
  /-- without the number the tables are the same -/
  table : s.2.remove rid = s'.2.remove rid

/-- A call for anything but the number does the same in both states. -/
theorem SameBut.call {s s' : Machine × ResourceTable} (h : SameBut rid s s') {c : TableCall}
    (hc : c.rid? ≠ some rid) :
    (s.2.call s.1 c).1 = (s'.2.call s'.1 c).1 ∧
      SameBut rid (s.2.call s.1 c).2 (s'.2.call s'.1 c).2 := by
  obtain ⟨hmachine, htable⟩ := h
  cases hn : c.rid? with
  | none =>
    have hnext : (s.2.remove rid).next = (s'.2.remove rid).next := by rw [htable]
    have hentries : (s.2.remove rid).entries = (s'.2.remove rid).entries := by rw [htable]
    cases c with
    | add r =>
      refine ⟨?_, hmachine, ?_⟩
      · simp only [remove] at hnext
        simp only [ResourceTable.call, add, hnext]
      · simp only [remove] at hnext hentries
        simp only [ResourceTable.call, add, remove, List.filter_append, hentries, hnext]
    | _ => cases hn
  | some rid' =>
    have hne : rid' ≠ rid := fun heq => hc (hn.trans (congrArg some heq))
    have hfind : s.2.find? rid' = s'.2.find? rid' := by
      rw [← find?_remove_of_ne s.2 hne, htable, find?_remove_of_ne s'.2 hne]
    obtain ⟨hanswer, heffect, hlose⟩ := call_congr hn hfind s.1 s'.1
    refine ⟨hanswer, heffect hmachine, ?_⟩
    rcases hlose with ⟨hkept, hkept'⟩ | ⟨hlost, hlost'⟩
    · rw [hkept, hkept', htable]
    · rw [hlost, hlost', remove_comm, htable, remove_comm]

/-- A taker of the number changes nothing else. -/
theorem SameBut.call_taker {s s' : Machine × ResourceTable} (h : SameBut rid s s') (k : Taker) :
    SameBut rid (s.2.call s.1 (k.call rid)).2 s' := by
  have hmachine : (s.2.call s.1 (k.call rid)).2.1 = s.1 := by
    rw [Taker.call, ResourceTable.call]
    split <;> rfl
  obtain ⟨-, -, hlose⟩ := call_congr (t := s.2) (c := k.call rid) rfl rfl s.1 s.1
  refine ⟨hmachine.trans h.machine, ?_⟩
  rcases hlose with ⟨hkept, -⟩ | ⟨hlost, -⟩
  · rw [hkept, h.table]
  · rw [hlost, remove_remove, h.table]

/-- Two states that are the same, with a resource under a number. -/
structure SameHolding (rid : Int) (r : Resource) (s s' : Machine × ResourceTable) : Prop where
  /-- the states are the same -/
  same : s = s'
  /-- the resource is there -/
  found : s.2.find? rid = some r
  /-- the number has been given out -/
  given : rid < s.2.next

section Contest

variable (m : Machine) (xs : List (Contest rid))

/-- **Takers answer as if they were alone.** -/
theorem answersOf_taker? (h : rid < t.next) :
    answersOf Contest.taker? (t.callAll Contest.call m xs).1 =
        (t.callAll (Taker.call rid) m (Contest.takers xs)).1 ∧
      SameUnder rid (t.callAll Contest.call m xs).2
        (t.callAll (Taker.call rid) m (Contest.takers xs)).2 := by
  have hstart : SameUnder rid (m, t) (m, t) := ⟨rfl, h, h⟩
  refine callAll_filterMap Contest.taker? Contest.call (Taker.call rid) ?taker ?other hstart
  case taker =>
    rintro (k | ⟨c, hc⟩) _ j hj s s' hsame
    · obtain rfl := Option.some.inj hj
      exact hsame.call rfl
    · cases hj
  case other =>
    rintro (k | ⟨c, hc⟩) _ hnone s s' hsame
    · cases hnone
    · exact hsame.call_left hc

/-- **The others answer as if there were no takers**, and leave the same for all other numbers. -/
theorem answersOf_other? :
    answersOf Contest.other? (t.callAll Contest.call m xs).1 =
        (t.callAll id m (Contest.others xs)).1 ∧
      SameBut rid (t.callAll Contest.call m xs).2 (t.callAll id m (Contest.others xs)).2 := by
  have hstart : SameBut rid (m, t) (m, t) := ⟨rfl, rfl⟩
  refine callAll_filterMap Contest.other? Contest.call id ?other ?taker hstart
  case other =>
    rintro (k | ⟨c, hc⟩) _ d hd s s' hsame
    · cases hd
    · obtain rfl := Option.some.inj hd
      exact hsame.call hc
  case taker =>
    rintro (k | ⟨c, hc⟩) _ hnone s s' hsame
    · exact hsame.call_taker k
    · cases hnone

/-- **Takers who do not accept a resource might as well not be there.** -/
theorem callAll_of_not_accepts (h : rid < t.next) (hf : t.find? rid = some r)
    (hks : ∀ k ∈ Contest.takers xs, k.accepts r = false) :
    SameHolding rid r (t.callAll Contest.call m xs).2 (t.callAll id m (Contest.others xs)).2 := by
  have hstart : SameHolding rid r (m, t) (m, t) := ⟨rfl, hf, h⟩
  refine (callAll_filterMap Contest.other? Contest.call id ?other ?taker hstart).2
  case other =>
    rintro (k | ⟨c, hc⟩) _ d hd s s' hsame
    · cases hd
    · obtain rfl := Option.some.inj hd
      obtain ⟨rfl, hfound, hgiven⟩ := hsame
      exact ⟨rfl, rfl, (find?_call_of_ne hc hgiven s.1).trans hfound, lt_next_call hgiven c⟩
  case taker =>
    rintro (k | ⟨c, hc⟩) hx hnone s s' hsame
    · have hmistaken : s.2.call s.1 (Contest.taker k : Contest rid).call =
          (k.mistaken rid, s.1, s.2) :=
        call_take_of_not_guard hsame.found s.1 (some k.expected) (hks k (Contest.mem_takers hx))
      rw [hmistaken]
      exact hsame
    · cases hnone

end Contest

/-! ## How a competition ends -/

/-- **How a competition for a resource ends.** The others are compared with the calls that they make
without any takers, and the calls for one number with those calls alone. -/
structure FirstTakerWins (t : ResourceTable) (m : Machine) (rid : Int) (r : Resource)
    (xs : List (Contest rid)) : Prop where
  /-- the first taker who accepts the resource gets it, those before it are mistaken and those after
  it too late; the resource is gone, and all else is as without takers -/
  won : ∀ before k after, Contest.takers xs = before ++ k :: after →
    (∀ j ∈ before, j.accepts r = false) → k.accepts r = true →
    let run := t.callAll Contest.call m xs
    let alone := t.callAll id m (Contest.others xs)
    answersOf Contest.taker? run.1 = (before.map fun j => (j, j.mistaken rid)) ++
        (k, .ok (.found r)) :: after.map (fun j => (j, j.tooLate rid)) ∧
      (∀ r', ¬run.2.2.Holds rid r') ∧ run.2 = (alone.2.1, alone.2.2.remove rid)
  /-- if no taker accepts the resource, all are mistaken; the resource stays, and all else is as
  without takers -/
  missed : (∀ k ∈ Contest.takers xs, k.accepts r = false) →
    let run := t.callAll Contest.call m xs
    answersOf Contest.taker? run.1 = ((Contest.takers xs).map fun k => (k, k.mistaken rid)) ∧
      run.2.2.Holds rid r ∧ run.2 = (t.callAll id m (Contest.others xs)).2
  /-- the others get the answers that they get without takers -/
  others : answersOf Contest.other? (t.callAll Contest.call m xs).1 =
    (t.callAll id m (Contest.others xs)).1
  /-- calls for a number that has been given out get the answers that they get without any other
  calls, and the same is under the number in the end -/
  numbers : ∀ rid' : Int, rid' < t.next →
    let run := t.callAll Contest.call m xs
    let only := t.callAll id m (xs.filterMap fun x => x.call.ifFor rid')
    answersOf (fun x => x.call.ifFor rid') run.1 = only.1 ∧
      run.2.2.find? rid' = only.2.2.find? rid'

/-- A competition for a number that has been given out is won by the first taker who accepts the
resource, or by none. -/
theorem firstTakerWins (m : Machine) (h : rid < t.next) (hf : t.find? rid = some r)
    (xs : List (Contest rid)) : t.FirstTakerWins m rid r xs := by
  obtain ⟨hanswers, hunder⟩ := answersOf_taker? m xs h
  obtain ⟨hothers, hbut⟩ := answersOf_other? (t := t) m xs
  refine ⟨fun before k after hsplit hbefore hk => ?won, fun hnone => ?missed, hothers,
    fun rid' hlt => callAll_local Contest.call m hlt xs⟩
  case won =>
    rw [hsplit, callAll_takers_of_accepts m hf after hbefore hk] at hanswers hunder
    have hgone : (t.callAll Contest.call m xs).2.2.find? rid = none := by
      rw [hunder.find]
      exact find?_remove_self t rid
    refine ⟨hanswers, fun r' hr' => ?_, Prod.ext hbut.machine ?_⟩
    · obtain ⟨k', hk', hmem⟩ := hr'
      exact find?_eq_none_iff.mp hgone _ hmem hk'
    · rw [← hbut.table, remove_of_find?_eq_none hgone]
  case missed =>
    rw [callAll_takers_of_not_accepts m hf hnone] at hanswers
    obtain ⟨hsame, hfound, -⟩ := callAll_of_not_accepts m xs h hf hnone
    exact ⟨hanswers, exists_mem_of_find? hfound, hsame⟩

/-- The machine and the table after a competition only depend on what the others do and on whether
any taker accepts the resource. -/
theorem FirstTakerWins.state_eq {m : Machine} {xs : List (Contest rid)}
    (h : t.FirstTakerWins m rid r xs) :
    let alone := t.callAll id m (Contest.others xs)
    (t.callAll Contest.call m xs).2 =
      if (Contest.takers xs).any (·.accepts r) then (alone.2.1, alone.2.2.remove rid)
      else alone.2 := by
  intro alone
  cases hfirst : (Contest.takers xs).find? (·.accepts r) with
  | none =>
    have hnone : ∀ k ∈ Contest.takers xs, k.accepts r = false := by
      simpa using List.find?_eq_none.mp hfirst
    have hany : (Contest.takers xs).any (·.accepts r) = false := by simpa using hnone
    rw [hany]
    exact (h.missed hnone).2.2
  | some k =>
    obtain ⟨hk, before, after, hsplit, hbefore⟩ := List.find?_eq_some_iff_append.mp hfirst
    have hany : (Contest.takers xs).any (·.accepts r) = true := by
      rw [hsplit]
      simp [hk]
    rw [if_pos hany]
    exact (h.won before k after hsplit (by simpa using hbefore) hk).2.2

/-- **Of competing takers one wins, in any order.** On every table that calls lead to, for every
resource in it and every machine, and for takers of its number among any calls that are not for this
number: no resource is both a listener and a stream; the first taker of the right kind gets the
resource and all others fail, or all fail and it stays; the other calls do not notice; calls for one
number only depend on each other. Where the others make the same calls, the takers may call in any
order and at any time: the others get the same answers and the end is the same.

**Proof sketch.** What a call does depends on what is under its number (`call_congr`). So takers
answer as if they were alone, where the first who accepts the resource removes it, and the others as
if there were no takers. The state in the end is the one that the others leave, with or without the
resource. -/
theorem takers_compete (earlier : List (Machine × TableCall)) (m : Machine) {rid : Int}
    {r : Resource} (hr : (ResourceTable.empty.afterCalls earlier).Holds rid r)
    (xs : List (Contest rid)) :
    let t := ResourceTable.empty.afterCalls earlier
    (∀ r' : Resource, ¬(r'.isListener = true ∧ r'.isStream = true)) ∧
    t.FirstTakerWins m rid r xs ∧
    ∀ ys : List (Contest rid), (Contest.takers ys).Perm (Contest.takers xs) →
      Contest.others ys = Contest.others xs →
      answersOf Contest.other? (t.callAll Contest.call m ys).1 =
          answersOf Contest.other? (t.callAll Contest.call m xs).1 ∧
        (t.callAll Contest.call m ys).2 = (t.callAll Contest.call m xs).2 := by
  intro t
  have hledger := Ledger.empty.run earlier
  have hfound : t.find? rid = some r := (find?_eq_some_iff hledger.ascending).mpr hr
  have hgiven : rid < t.next := by
    obtain ⟨k, rfl, hmem⟩ := hr
    have hlt : k < _ := hledger.lt_of_mem_entries hmem
    have hnext : t.next = _ := hledger.next_eq
    omega
  have hends := firstTakerWins m hgiven hfound
  refine ⟨Resource.not_isListener_and_isStream, hends xs, fun ys hperm hothers => ⟨?_, ?_⟩⟩
  · rw [(hends ys).others, (hends xs).others, hothers]
  · have hany : (Contest.takers ys).any (·.accepts r) = (Contest.takers xs).any (·.accepts r) :=
      hperm.any_eq
    rw [(hends ys).state_eq, (hends xs).state_eq, hothers, hany]

/-- A stream's taker, a listener's taker and another such want a listener, while another resource is
closed: the second gets it. -/
theorem takers_compete_for_listener :
    let listener : Resource := .memoryListener 0 .tcp (.ip "::1" 80)
    let stream : Resource := .memoryStream 1 .unix (.unix .unnamed) (.unix .unnamed)
    let m := Machine.start ⟨"/", "/", "/"⟩ []
    let t := ResourceTable.empty.afterCalls [(m, .add listener), (m, .add stream)]
    let xs : List (Contest 0) :=
      [.taker .stream, .other (.close 1) (by decide), .taker .listener, .taker .listener]
    t.Holds 0 listener ∧
      answersOf Contest.taker? (t.callAll Contest.call m xs).1 =
        [(.stream, Taker.stream.mistaken 0), (.listener, .ok (.found listener)),
          (.listener, Taker.listener.tooLate 0)] := by
  intro listener stream m t xs
  have hheld : t.Holds 0 listener := ⟨0, rfl, List.mem_cons_self⟩
  obtain ⟨-, hends, -⟩ := takers_compete [(m, .add listener), (m, .add stream)] m hheld xs
  have hwon := hends.won [.stream] .listener [.listener] rfl (by decide) (by decide)
  exact ⟨hheld, hwon.1⟩

end ResourceTable

end TargetUri
