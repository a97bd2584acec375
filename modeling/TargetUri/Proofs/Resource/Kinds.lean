import TargetUri.Proofs.Resource.Competition

set_option autoImplicit false

/-!
# What a taker may count on

Who serves a listener counts on its transport and its own address, and who serves a stream on the
address of the peer besides. The resources that are made here keep that promise, and are accepted
by the takers of their own kind alone. A resource of some other program part is accepted by its name
and its members. For a listener these are all that is counted on; for a stream its own address is
not looked for, so a stream without one is accepted too.

## Main definitions

* `TargetUri.Taker.promised`, `TargetUri.Resource.Offers` — the members that a taker counts on, and
  a resource that has them all.
* `TargetUri.Resource.LacksOwnAddress` — a stream of another program part without its own address.
* `TargetUri.Resource.kind?`, `TargetUri.Resource.Tells` — the kind of a resource that is made here,
  and a resource that gives an answer where a member is asked.

## Main results

* `TargetUri.Resource.isStream_and_not_offers_iff` — which accepted streams offer less than is
  counted on.
* `TargetUri.Resource.tells_iff`, `TargetUri.Resource.accepts_iff` — what resources that are made
  here answer, and who accepts them.
* `TargetUri.ResourceTable.taken_offers` — what takers get from any table.
-/

namespace TargetUri

/-! ## Promises -/

/-- The members that a taker counts on. -/
def Taker.promised : Taker → List Member
  | listener => [.streamType, .localAddress]
  | stream => [.streamType, .localAddress, .peerAddress]

/-- The names of the resources of a kind. -/
def Taker.names : Taker → List String
  | listener => Resource.listenerNames
  | stream => Resource.streamNames

/-- Each transport has its name for listeners. -/
theorem StreamType.listenerName_mem (t : StreamType) : t.listenerName ∈ Resource.listenerNames := by
  cases t <;> decide

/-- Each transport has its name for streams. -/
theorem StreamType.streamName_mem (t : StreamType) : t.streamName ∈ Resource.streamNames := by
  cases t <;> decide

namespace Resource

/-- A resource that has all members that a taker counts on. -/
def Offers (r : Resource) (k : Taker) : Prop := ∀ x ∈ k.promised, x ∈ r.members

instance (r : Resource) (k : Taker) : Decidable (r.Offers k) :=
  inferInstanceAs (Decidable (∀ x ∈ k.promised, x ∈ r.members))

variable {r : Resource} {k k' : Taker}

/-- What is looked for in a listener is its name and all that is counted on. -/
theorem isListener_iff : r.isListener = true ↔ r.name ∈ listenerNames ∧ r.Offers .listener := by
  simp [isListener, Offers, Taker.promised, and_assoc]

/-- What is looked for in a stream is its name, its transport and its peer. With its own address
that is all that is counted on. -/
theorem isStream_iff :
    r.isStream = true ↔
      r.name ∈ streamNames ∧ Member.streamType ∈ r.members ∧ Member.peerAddress ∈ r.members := by
  simp [isStream, and_assoc]

/-- A stream that is accepted offers what is counted on just when it has its own address. -/
theorem offers_iff_of_isStream (h : r.isStream = true) :
    r.Offers .stream ↔ Member.localAddress ∈ r.members := by
  obtain ⟨-, htransport, hpeer⟩ := isStream_iff.mp h
  simp [Offers, Taker.promised, htransport, hpeer]

/-! ## Resources that are made here -/

/-- The kind of a resource that is made here. A foreign one has none of its own, whatever it passes
for. -/
def kind? : Resource → Option Taker
  | memoryListener .. => some .listener
  | memoryStream .. => some .stream
  | foreign .. => none
  | server .. => some .listener
  | socket .. => some .stream

/-- A resource that gives an answer where a member is asked, be it a fault. -/
def Tells (m : Machine) (r : Resource) : Member → Prop
  | .streamType => r.streamType?.isSome
  | .localAddress => (r.localAddress? m).isSome
  | .peerAddress => (r.peerAddress? m).isSome

/-- A resource that is made here has just the members that are counted on. -/
theorem members_eq (h : r.kind? = some k) : r.members = k.promised := by
  cases r with
  | foreign flag name members closeFault => cases h
  | memoryListener | memoryStream | server | socket => cases h; rfl

/-- **A resource that is made here answers for just the members that are counted on**, on every
machine. -/
theorem tells_iff (h : r.kind? = some k) (m : Machine) (x : Member) :
    r.Tells m x ↔ x ∈ k.promised := by
  cases r with
  | foreign flag name members closeFault => cases h
  | memoryListener | memoryStream =>
    cases h
    cases x <;> simp [Tells, streamType?, localAddress?, peerAddress?, Taker.promised]
  | server id t =>
    cases h
    cases x with
    | localAddress =>
      cases ha : m.serverAddress? id <;> simp [Tells, localAddress?, ha, Taker.promised]
    | streamType | peerAddress => simp [Tells, streamType?, peerAddress?, Taker.promised]
  | socket id t path =>
    cases h
    cases x with
    | localAddress =>
      cases t <;> cases path <;> simp [Tells, localAddress?, Taker.promised]
    | streamType | peerAddress => simp [Tells, streamType?, peerAddress?, Taker.promised]

/-- A resource that is made here has all that is counted on. -/
theorem offers_of_kind? (h : r.kind? = some k) : r.Offers k := by
  intro x hx
  rwa [members_eq h]

/-- A resource that is made here has its own address, of whatever kind it is. -/
theorem localAddress_mem (h : r.kind? = some k) : Member.localAddress ∈ r.members := by
  rw [members_eq h]
  cases k <;> decide

/-- A resource that is made here is called by a name of its kind. -/
theorem name_mem (h : r.kind? = some k) : r.name ∈ k.names := by
  cases r with
  | foreign flag name members closeFault => cases h
  | memoryListener flag t address => cases h; exact t.listenerName_mem
  | memoryStream flag t here peer => cases h; exact t.streamName_mem
  | server id t => cases h; exact t.listenerName_mem
  | socket id t path => cases h; exact t.streamName_mem

/-- A resource that is made here is accepted by the takers of its kind. -/
theorem accepts_of_kind? (h : r.kind? = some k) : k.accepts r = true := by
  have hname := name_mem h
  have hoffers := offers_of_kind? h
  cases k with
  | listener => exact isListener_iff.mpr ⟨hname, hoffers⟩
  | stream =>
    have htransport := hoffers .streamType (by decide)
    have hpeer := hoffers .peerAddress (by decide)
    exact isStream_iff.mpr ⟨hname, htransport, hpeer⟩

/-- **A resource that is made here is accepted by its own kind alone.** -/
theorem accepts_iff (h : r.kind? = some k) : k'.accepts r = true ↔ k' = k := by
  refine ⟨fun h' => ?_, fun heq => heq ▸ accepts_of_kind? h⟩
  have hk := accepts_of_kind? h
  have hno := r.not_isListener_and_isStream
  cases k with
  | listener =>
    cases k' with
    | listener => rfl
    | stream => exact absurd ⟨hk, h'⟩ hno
  | stream =>
    cases k' with
    | listener => exact absurd ⟨h', hk⟩ hno
    | stream => rfl

/-! ## Streams without an address of their own -/

/-- **A stream without its own address**: a resource of some other program part that is called a
stream and has a transport and a peer, but no address of its own. -/
inductive LacksOwnAddress : Resource → Prop
  /-- a foreign resource with these members -/
  | foreign {flag : Nat} {name : String} {members : List Member} {closeFault : Option Fault}
      (called : name ∈ streamNames) (transport : Member.streamType ∈ members)
      (peer : Member.peerAddress ∈ members) (lacking : Member.localAddress ∉ members) :
      LacksOwnAddress (.foreign flag name members closeFault)

/-- **A stream that is accepted and offers less than is counted on** is one of another program part
that has no address of its own. -/
theorem isStream_and_not_offers_iff :
    (r.isStream = true ∧ ¬r.Offers .stream) ↔ r.LacksOwnAddress := by
  constructor
  · rintro ⟨hstream, hless⟩
    have hlacking := mt (offers_iff_of_isStream hstream).mpr hless
    obtain ⟨hname, htransport, hpeer⟩ := isStream_iff.mp hstream
    cases r with
    | foreign flag name members closeFault => exact .foreign hname htransport hpeer hlacking
    | memoryListener | memoryStream | server | socket =>
      exact absurd (localAddress_mem rfl) hlacking
  · rintro (@⟨flag, name, members, closeFault, hname, htransport, hpeer, hlacking⟩)
    have hstream : (foreign flag name members closeFault).isStream = true :=
      isStream_iff.mpr ⟨hname, htransport, hpeer⟩
    exact ⟨hstream, mt (offers_iff_of_isStream hstream).mp hlacking⟩

end Resource

namespace ResourceTable

/-! ## What takers get -/

/-- **A resource is taken** when it is what is found under the number and is of the kind asked for,
and it is gone from the table then. -/
theorem take_eq_ok_iff {t t' : ResourceTable} {rid : Int} {r : Resource} {guard : Resource → Bool}
    {expected : Option String} :
    t.take rid guard expected = .ok (r, t') ↔
      t.find? rid = some r ∧ guard r = true ∧ t' = t.remove rid := by
  rw [take, get]
  cases hf : t.find? rid with
  | none => simp [Except.map]
  | some r' =>
    cases hg : guard r' with
    | false =>
      refine iff_of_false (by simp [hg, Except.map]) ?_
      rintro ⟨heq, hr, -⟩
      rw [← Option.some.inj heq, hg] at hr
      cases hr
    | true =>
      simp only [hg, if_true, Except.map, Except.ok.injEq, Prod.mk.injEq, Option.some.injEq]
      constructor
      · rintro ⟨rfl, rfl⟩
        exact ⟨rfl, hg, rfl⟩
      · rintro ⟨rfl, -, rfl⟩
        exact ⟨rfl, rfl⟩

/-- **What takers may count on.** A listener that is taken from any table has its transport and its
own address. A stream that is taken has its transport, its own address and the address of its peer,
but for one case: a resource of some other program part that is called a stream and has no address
of its own is taken, too. A resource that is made here has all that is counted on and answers for
it, on every machine, and is accepted by its own kind alone. -/
theorem taken_offers (t : ResourceTable) (rid : Int) (r : Resource) :
    (∀ t', t.takeListener rid = .ok (r, t') → r.Offers .listener) ∧
    (((∃ t', t.takeStream rid = .ok (r, t')) ∧ ¬r.Offers .stream) ↔
      t.find? rid = some r ∧ r.LacksOwnAddress) ∧
    ∀ k, r.kind? = some k →
      r.Offers k ∧ (∀ m, ∀ x ∈ k.promised, r.Tells m x) ∧ ∀ k', k'.accepts r = true ↔ k' = k := by
  refine ⟨fun t' htake => ?listener, ?stream, fun k hk => ?made⟩
  case listener =>
    obtain ⟨-, hlistener, -⟩ := take_eq_ok_iff.mp htake
    exact (Resource.isListener_iff.mp hlistener).2
  case stream =>
    have htaken : (∃ t', t.takeStream rid = .ok (r, t')) ↔
        t.find? rid = some r ∧ r.isStream = true := by
      simp only [takeStream, take_eq_ok_iff, exists_and_left, exists_eq, and_true]
    rw [htaken, and_assoc, Resource.isStream_and_not_offers_iff]
  case made =>
    exact ⟨Resource.offers_of_kind? hk, fun m x hx => (Resource.tells_iff hk m x).mpr hx,
      fun k' => Resource.accepts_iff hk⟩

/-- A stream of another program part is taken without an address of its own. -/
theorem takeStream_lacking :
    let r : Resource := .foreign 0 "tcpStream" [.streamType, .peerAddress] none
    takeStream ⟨1, [(0, r)]⟩ 0 = .ok (r, ⟨1, []⟩) ∧ ¬r.Offers .stream :=
  ⟨rfl, by decide⟩

end ResourceTable

end TargetUri
