import Mathlib.Data.List.Forall2
import TargetUri.Proofs.Config.Accepted

set_option autoImplicit false

/-!
# The configurations that may be written

Which JSON values are configurations, said without the readers: what each key may hold, what stands
for a missing one, and that nothing else matters. Reading accepts just these values and gives their
completion, an object with the known keys only, in their order, every default written out. Of any
other value all faults are reported: those of a list are the faults of its items, one item after the
other, and they come before those of the key that is read after the list.

## Main definitions

* `TargetUri.ListenerConfig.Completion`, `TargetUri.ServerConfig.Completion` — what a listener or a
  configuration is when all of it is written out.
* `TargetUri.Checked.Explained` — a value that is not there has faults.
* `TargetUri.Issue.below` — a fault, seen from further out.

## Main results

* `TargetUri.ListenerConfig.completion_iff` — the listeners that reading accepts.
* `TargetUri.ListenerConfig.issues_checkItems` — the faults of a list of listeners.
* `TargetUri.ServerConfig.check_documented` — the configurations that reading accepts, and what it
  reports of other values.
-/

namespace TargetUri

/-! ## What a key may hold -/

/-- The value of a key is a text with at least one character. -/
def HoldsText (v : Option Json) (s : WideString) : Prop := v = some (.str s) ∧ s ≠ ""

/-- The value of a key is a text with at least one character; a default stands for a missing one. -/
def HoldsTextOr (default : WideString) (v : Option Json) (s : WideString) : Prop :=
  v = none ∧ s = default ∨ HoldsText v s

/-- The value of a key is a whole number from 0 to 65535, however it is spelled. -/
inductive HoldsPort : Option Json → Port → Prop
  /-- a number without a minus sign -/
  | number {d : Decimal} {n : Nat} (hround : d.round = .whole n) (hle : n ≤ 65535) :
      HoldsPort (some (.num d)) (.number n)
  /-- zero with a minus sign -/
  | minusZero {d : Decimal} (hround : d.round = .minusZero) : HoldsPort (some (.num d)) .minusZero

/-- The value of a key is the name of a level that may be named. -/
def HoldsLevel (v : Option Json) (name : String) : Prop :=
  v = none ∧ name = "info" ∨
    v = some (.str name) ∧ name ∈ ["fatal", "error", "warn", "info", "debug"]

/-- The value of a key is a truth value. -/
def HoldsFlag (v : Option Json) (b : Bool) : Prop := v = none ∧ b = false ∨ v = some (.bool b)

/-! ## Completions -/

/-- **A listener written out**: the second value is the first with the keys of its transport only,
in their order, and with the address that stands for a missing one. -/
inductive ListenerConfig.Completion : Json → Json → Prop
  /-- a listener on a port -/
  | tcp {ms : List (String × Json)} {hostname : WideString} {port : Port}
      (htransport : Json.lookup "transport" ms = some (.str "tcp"))
      (hhost : HoldsTextOr "127.0.0.1" (Json.lookup "hostname" ms) hostname)
      (hport : HoldsPort (Json.lookup "port" ms) port) :
      Completion (.obj ms)
        (.obj [("transport", .str "tcp"), ("hostname", .str hostname), ("port", port.toJson)])
  /-- a listener on a port, with a certificate and a key -/
  | tls {ms : List (String × Json)} {hostname : WideString} {port : Port}
      {certPath keyPath : WideString}
      (htransport : Json.lookup "transport" ms = some (.str "tls"))
      (hhost : HoldsTextOr "0.0.0.0" (Json.lookup "hostname" ms) hostname)
      (hport : HoldsPort (Json.lookup "port" ms) port)
      (hcert : HoldsText (Json.lookup "certPath" ms) certPath)
      (hkey : HoldsText (Json.lookup "keyPath" ms) keyPath) :
      Completion (.obj ms)
        (.obj [("transport", .str "tls"), ("hostname", .str hostname), ("port", port.toJson),
          ("certPath", .str certPath), ("keyPath", .str keyPath)])
  /-- a listener on a socket file -/
  | unix {ms : List (String × Json)} {path : WideString}
      (htransport : Json.lookup "transport" ms = some (.str "unix"))
      (hpath : HoldsText (Json.lookup "path" ms) path) :
      Completion (.obj ms) (.obj [("transport", .str "unix"), ("path", .str path)])

/-- The listeners of a configuration written out: those of a list that is not empty, or one on a
port of this machine where there is no list. -/
inductive ListenerConfig.ListCompletion : Option Json → List Json → Prop
  /-- no list -/
  | absent :
      ListCompletion none
        [.obj [("transport", .str "tcp"), ("hostname", .str "127.0.0.1"), ("port", .nat 8080)]]
  /-- a list -/
  | items {vs ws : List Json} (hne : vs ≠ []) (hitems : List.Forall₂ Completion vs ws) :
      ListCompletion (some (.arr vs)) ws

/-- How much to log, written out. -/
inductive LoggingConfig.Completion : Option Json → Json → Prop
  /-- nothing is said of it -/
  | absent : Completion none (.obj [("level", .str "info"), ("pretty", .bool false)])
  /-- something is said of it -/
  | object {ms : List (String × Json)} {level : String} {pretty : Bool}
      (hlevel : HoldsLevel (Json.lookup "level" ms) level)
      (hpretty : HoldsFlag (Json.lookup "pretty" ms) pretty) :
      Completion (some (.obj ms)) (.obj [("level", .str level), ("pretty", .bool pretty)])

/-- **A configuration written out**: the second value is the first with the known keys only, in
their order, and with all defaults. -/
inductive ServerConfig.Completion : Json → Json → Prop
  /-- an object -/
  | object {ms : List (String × Json)} {listeners : List Json} {logging : Json}
      (hlisteners : ListenerConfig.ListCompletion (Json.lookup "listeners" ms) listeners)
      (hlogging : LoggingConfig.Completion (Json.lookup "logging" ms) logging) :
      Completion (.obj ms) (.obj [("listeners", .arr listeners), ("logging", logging)])

/-! ## What reading accepts -/

/-- The transport of a name is the one that has it. -/
theorem StreamType.ofName?_eq_some_iff {s : String} {t : StreamType} :
    ofName? s = some t ↔ s = t.name := by
  constructor
  · intro h
    unfold ofName? at h
    split at h <;> cases h <;> rfl
  · rintro rfl
    cases t <;> rfl

/-- The name of a transport is read just when it is there. -/
theorem checkTransport_eq_ok_iff {t : StreamType} {v : Option Json} {u : Unit} :
    checkTransport t v = .ok u ↔ v = some (.str t.name) := by
  unfold checkTransport
  split
  · rename_i s
    by_cases hs : s = t.name
    · simp [hs]
    · simp [hs, Checked.fault]
  · rename_i hstr
    refine iff_of_false nofun ?_
    rintro rfl
    exact hstr _ rfl

/-- A port is read just when it is held. -/
theorem holdsPort_iff {v : Option Json} {p : Port} : HoldsPort v p ↔ checkPort v = .ok p := by
  rw [checkPort_eq_ok_iff]
  constructor
  · intro h
    cases h with
    | number hround hle => exact ⟨_, rfl, hround, hle⟩
    | minusZero hround => exact ⟨_, rfl, hround, Nat.zero_le _⟩
  · rintro ⟨d, rfl, hround, hle⟩
    cases p with
    | number n => exact .number hround hle
    | minusZero => exact .minusZero hround

namespace ListenerConfig

/-- The transport that the members of a listener name. -/
theorem namedTransport?_eq_some_iff {ms : List (String × Json)} {t : StreamType} :
    namedTransport? ms = some t ↔ Json.lookup "transport" ms = some (.str t.name) := by
  unfold namedTransport?
  split
  · rename_i s hs
    rw [StreamType.ofName?_eq_some_iff, hs, Option.some.injEq, Json.str.injEq,
      WideString.text.injEq]
  · rename_i hstr
    exact iff_of_false nofun (hstr _)

/-- A listener is read just when it is an object that names a transport, with the members of a
listener of that transport. -/
theorem check_eq_ok_iff {v : Json} {l : ListenerConfig} :
    check (some v) = .ok l ↔ ∃ ms t, v = .obj ms ∧
      Json.lookup "transport" ms = some (.str t.name) ∧ checkMembers t ms = .ok l := by
  constructor
  · intro h
    unfold check at h
    split at h
    · rename_i ms hv
      cases hv
      split at h
      · rename_i t ht
        exact ⟨ms, t, rfl, namedTransport?_eq_some_iff.mp ht, h⟩
      · cases h
    · cases h
  · rintro ⟨ms, t, rfl, ht, h⟩
    simp only [check, namedTransport?_eq_some_iff.mpr ht, h]

/-- **The listeners that reading accepts** are those that can be written out. -/
theorem completion_iff {v w : Json} :
    Completion v w ↔ ∃ l, check (some v) = .ok l ∧ l.toJson = w := by
  constructor
  · intro h
    cases h with
    | tcp htransport hhost hport =>
      refine ⟨.tcp _ _, check_eq_ok_iff.mpr ⟨_, .tcp, rfl, htransport, ?_⟩, rfl⟩
      refine Checked.map_eq_ok_iff.mpr ⟨((), _, _), ?_, rfl⟩
      simp only [Checked.both_eq_ok_iff, Checked.field_eq_ok_iff]
      exact ⟨checkTransport_eq_ok_iff.mpr htransport, checkTextOr_eq_ok_iff.mpr hhost,
        holdsPort_iff.mp hport⟩
    | tls htransport hhost hport hcert hkey =>
      refine ⟨.tls _ _ _ _, check_eq_ok_iff.mpr ⟨_, .tls, rfl, htransport, ?_⟩, rfl⟩
      refine Checked.map_eq_ok_iff.mpr ⟨((), _, _, _, _), ?_, rfl⟩
      simp only [Checked.both_eq_ok_iff, Checked.field_eq_ok_iff]
      exact ⟨checkTransport_eq_ok_iff.mpr htransport, checkTextOr_eq_ok_iff.mpr hhost,
        holdsPort_iff.mp hport, checkText_eq_ok_iff.mpr hcert, checkText_eq_ok_iff.mpr hkey⟩
    | unix htransport hpath =>
      refine ⟨.unix _, check_eq_ok_iff.mpr ⟨_, .unix, rfl, htransport, ?_⟩, rfl⟩
      refine Checked.map_eq_ok_iff.mpr ⟨((), _), ?_, rfl⟩
      simp only [Checked.both_eq_ok_iff, Checked.field_eq_ok_iff]
      exact ⟨checkTransport_eq_ok_iff.mpr htransport, checkText_eq_ok_iff.mpr hpath⟩
  · rintro ⟨l, hl, rfl⟩
    obtain ⟨ms, t, rfl, htransport, hmembers⟩ := check_eq_ok_iff.mp hl
    cases t with
    | tcp =>
      obtain ⟨⟨u, hostname, port⟩, hread, rfl⟩ := Checked.map_eq_ok_iff.mp hmembers
      simp only [Checked.both_eq_ok_iff, Checked.field_eq_ok_iff] at hread
      obtain ⟨-, hhost, hport⟩ := hread
      exact .tcp htransport (checkTextOr_eq_ok_iff.mp hhost) (holdsPort_iff.mpr hport)
    | tls =>
      obtain ⟨⟨u, hostname, port, certPath, keyPath⟩, hread, rfl⟩ :=
        Checked.map_eq_ok_iff.mp hmembers
      simp only [Checked.both_eq_ok_iff, Checked.field_eq_ok_iff] at hread
      obtain ⟨-, hhost, hport, hcert, hkey⟩ := hread
      exact .tls htransport (checkTextOr_eq_ok_iff.mp hhost) (holdsPort_iff.mpr hport)
        (checkText_eq_ok_iff.mp hcert) (checkText_eq_ok_iff.mp hkey)
    | unix =>
      obtain ⟨⟨u, path⟩, hread, rfl⟩ := Checked.map_eq_ok_iff.mp hmembers
      simp only [Checked.both_eq_ok_iff, Checked.field_eq_ok_iff] at hread
      exact .unix htransport (checkText_eq_ok_iff.mp hread.2)

/-- The items of a list are read just when each of them can be written out. -/
theorem forall₂_completion_iff {first : Nat} {vs ws : List Json} :
    List.Forall₂ Completion vs ws ↔ ∃ ls, checkItems first vs = .ok ls ∧ ls.map toJson = ws := by
  induction vs generalizing first ws with
  | nil => simp [checkItems, eq_comm]
  | cons v vs ih =>
    rw [List.forall₂_cons_left_iff]
    constructor
    · rintro ⟨w, ws, hw, hws, rfl⟩
      obtain ⟨l, hl, rfl⟩ := completion_iff.mp hw
      obtain ⟨ls, hls, rfl⟩ := (@ih (first + 1) ws).mp hws
      refine ⟨l :: ls, Checked.map_eq_ok_iff.mpr ⟨(l, ls), ?_, rfl⟩, rfl⟩
      exact Checked.both_eq_ok_iff.mpr ⟨Checked.under_eq_ok_iff.mpr hl, hls⟩
    · rintro ⟨ls', h, rfl⟩
      obtain ⟨⟨l, ls⟩, hread, rfl⟩ := Checked.map_eq_ok_iff.mp h
      obtain ⟨hl, hls⟩ := Checked.both_eq_ok_iff.mp hread
      exact ⟨_, _, completion_iff.mpr ⟨l, Checked.under_eq_ok_iff.mp hl, rfl⟩,
        ih.mpr ⟨ls, hls, rfl⟩, rfl⟩

/-- A list of listeners is read just when it can be written out. -/
theorem listCompletion_iff {v : Option Json} {ws : List Json} :
    ListCompletion v ws ↔ ∃ ls, checkList v = .ok ls ∧ ls.map toJson = ws := by
  constructor
  · intro h
    cases h with
    | absent => exact ⟨_, rfl, rfl⟩
    | items hne hitems =>
      obtain ⟨x, xs, rfl⟩ := List.exists_cons_of_ne_nil hne
      exact forall₂_completion_iff.mp hitems
  · rintro ⟨ls, hread, rfl⟩
    unfold checkList at hread
    split at hread
    · cases hread
      exact .absent
    · rename_i vs
      split at hread
      · rename_i hcauses
        refine .items ?_ (forall₂_completion_iff.mpr ⟨ls, hread, rfl⟩)
        rintro rfl
        simp [lengthCauses] at hcauses
      · cases hread
    · cases hread

end ListenerConfig

/-- A level is read just when it is held. -/
theorem holdsLevel_iff {v : Option Json} {name : String} :
    HoldsLevel v name ↔ ∃ l, checkLevel v = .ok l ∧ l.name = name := by
  simp only [checkLevel_eq_ok_iff]
  constructor
  · rintro (⟨rfl, rfl⟩ | ⟨rfl, hname⟩)
    · exact ⟨.info, .inl ⟨rfl, rfl⟩, rfl⟩
    · obtain ⟨l, rfl⟩ : ∃ l : Level, l.name = name := by
        simp only [List.mem_cons, List.not_mem_nil, or_false] at hname
        rcases hname with rfl | rfl | rfl | rfl | rfl
        exacts [⟨.fatal, rfl⟩, ⟨.error, rfl⟩, ⟨.warn, rfl⟩, ⟨.info, rfl⟩, ⟨.debug, rfl⟩]
      exact ⟨l, .inr ⟨rfl, hname⟩, rfl⟩
  · rintro ⟨l, ⟨rfl, rfl⟩ | ⟨rfl, hl⟩, rfl⟩
    · exact .inl ⟨rfl, rfl⟩
    · exact .inr ⟨rfl, hl⟩

/-- How much to log is read just when it can be written out. -/
theorem LoggingConfig.completion_iff {v : Option Json} {w : Json} :
    Completion v w ↔ ∃ l, check v = .ok l ∧
      .obj [("level", .str l.level.name), ("pretty", .bool l.pretty)] = w := by
  constructor
  · intro h
    cases h with
    | absent => exact ⟨_, rfl, rfl⟩
    | object hlevel hpretty =>
      obtain ⟨level, hcheck, rfl⟩ := holdsLevel_iff.mp hlevel
      refine ⟨⟨level, _⟩, Checked.map_eq_ok_iff.mpr ⟨(level, _), ?_, rfl⟩, rfl⟩
      simp only [Checked.both_eq_ok_iff, Checked.field_eq_ok_iff]
      exact ⟨hcheck, checkFlag_eq_ok_iff.mpr hpretty⟩
  · rintro ⟨l, h, rfl⟩
    unfold check at h
    split at h
    · cases h
      exact .absent
    · obtain ⟨⟨level, pretty⟩, hread, rfl⟩ := Checked.map_eq_ok_iff.mp h
      simp only [Checked.both_eq_ok_iff, Checked.field_eq_ok_iff] at hread
      exact .object (holdsLevel_iff.mpr ⟨level, hread.1, rfl⟩) (checkFlag_eq_ok_iff.mp hread.2)
    · cases h

/-- **The configurations that reading accepts** are those that can be written out. -/
theorem ServerConfig.completion_iff {v w : Json} :
    Completion v w ↔ ∃ c, check v = .ok c ∧ c.toJson = w := by
  constructor
  · intro h
    cases h with
    | object hlisteners hlogging =>
      obtain ⟨listeners, hlist, rfl⟩ := ListenerConfig.listCompletion_iff.mp hlisteners
      obtain ⟨logging, hlog, rfl⟩ := LoggingConfig.completion_iff.mp hlogging
      refine ⟨⟨listeners, logging⟩, Checked.map_eq_ok_iff.mpr ⟨(listeners, logging), ?_, rfl⟩, rfl⟩
      simp only [Checked.both_eq_ok_iff, Checked.field_eq_ok_iff]
      exact ⟨hlist, hlog⟩
  · rintro ⟨c, h, rfl⟩
    unfold check at h
    split at h
    · obtain ⟨⟨listeners, logging⟩, hread, rfl⟩ := Checked.map_eq_ok_iff.mp h
      simp only [Checked.both_eq_ok_iff, Checked.field_eq_ok_iff] at hread
      exact .object (ListenerConfig.listCompletion_iff.mpr ⟨listeners, hread.1, rfl⟩)
        (LoggingConfig.completion_iff.mpr ⟨logging, hread.2, rfl⟩)
    · cases h

/-! ## What is reported -/

/-- A fault, seen from a value further out: the way from there to the value that it was found in
stands before its path. -/
def Issue.below (way : List PathStep) (i : Issue) : Issue := { i with path := way ++ i.path }

namespace Checked

variable {α β : Type}

/-- A value that is not there has faults. -/
def Explained (a : Checked α) : Prop := a.issues = [] → ∃ x, a = .ok x

/-- The faults of two values are those of the first and then those of the second. -/
@[simp] theorem issues_both (a : Checked α) (b : Checked β) :
    (a.both b).issues = a.issues ++ b.issues := by
  cases a <;> cases b <;> simp [both, issues]

/-- The faults of a value are those of what is made of it. -/
@[simp] theorem issues_map (a : Checked α) (f : α → β) : issues (a.map f) = a.issues := by
  cases a <;> rfl

/-- The faults of a value inside another are its own, seen from the outer one. -/
@[simp] theorem issues_under (step : PathStep) (a : Checked α) :
    (a.under step).issues = a.issues.map (Issue.below [step]) := by
  cases a <;> rfl

/-- Faults seen from two values further out. -/
theorem map_below_map_below (issues : List Issue) (step step' : PathStep) :
    (issues.map (Issue.below [step])).map (Issue.below [step']) =
      issues.map (Issue.below [step', step]) := by
  rw [List.map_map]
  rfl

namespace Explained

/-- A value that is there. -/
theorem ok (x : α) : Explained (.ok x) := fun _ => ⟨x, rfl⟩

/-- A value with faults of its own. -/
theorem fault {causes : List Cause} (h : causes ≠ []) : Explained (fault causes : Checked α) :=
  fun hnil => absurd (List.map_eq_nil_iff.mp hnil) h

variable {a : Checked α} {b : Checked β}

/-- A value inside another. -/
theorem under (h : a.Explained) (step : PathStep) : (a.under step).Explained := by
  intro hnil
  obtain ⟨x, rfl⟩ := h (List.map_eq_nil_iff.mp ((issues_under step a).symm.trans hnil))
  exact ⟨x, rfl⟩

/-- Two values. -/
theorem both (ha : a.Explained) (hb : b.Explained) : (a.both b).Explained := by
  intro hnil
  rw [issues_both, List.append_eq_nil_iff] at hnil
  obtain ⟨x, rfl⟩ := ha hnil.1
  obtain ⟨y, rfl⟩ := hb hnil.2
  exact ⟨(x, y), rfl⟩

/-- A value that is made of another. -/
theorem map (ha : a.Explained) (f : α → β) : Explained (a.map f) := by
  intro hnil
  obtain ⟨x, rfl⟩ := ha ((issues_map a f).symm.trans hnil)
  exact ⟨f x, rfl⟩

end Explained

end Checked

/-- A missing text has faults. -/
theorem explained_checkText (v : Option Json) : (checkText v).Explained := by
  unfold checkText
  split
  · split
    · exact .ok _
    · rename_i hcauses
      exact .fault hcauses
  · exact .fault (List.cons_ne_nil _ _)

/-- A missing text with a default has faults. -/
theorem explained_checkTextOr (default : WideString) (v : Option Json) :
    (checkTextOr default v).Explained := by
  cases v with
  | none => exact .ok _
  | some v => exact explained_checkText _

/-- A missing port has faults. -/
theorem explained_checkPort (v : Option Json) : (checkPort v).Explained := by
  unfold checkPort
  split
  · split
    · exact .fault (List.cons_ne_nil _ _)
    · exact .fault (List.cons_ne_nil _ _)
    · exact .ok _
    · split
      · exact .ok _
      · rename_i hcauses
        exact .fault hcauses
  · exact .fault (List.cons_ne_nil _ _)

/-- A missing transport has faults. -/
theorem explained_checkTransport (t : StreamType) (v : Option Json) :
    (checkTransport t v).Explained := by
  unfold checkTransport
  split
  · split
    · exact .ok _
    · exact .fault (List.cons_ne_nil _ _)
  · exact .fault (List.cons_ne_nil _ _)

/-- A missing level has faults. -/
theorem explained_checkLevel (v : Option Json) : (checkLevel v).Explained := by
  unfold checkLevel
  split
  · exact .ok _
  · split
    · split
      · exact .ok _
      · exact .fault (List.cons_ne_nil _ _)
    · exact .fault (List.cons_ne_nil _ _)
  · exact .fault (List.cons_ne_nil _ _)

/-- A missing truth value has faults. -/
theorem explained_checkFlag (default : Bool) (v : Option Json) :
    (checkFlag default v).Explained := by
  unfold checkFlag
  split
  · exact .ok _
  · exact .ok _
  · exact .fault (List.cons_ne_nil _ _)

namespace ListenerConfig

/-- A missing listener has faults. -/
theorem explained_checkMembers (t : StreamType) (ms : List (String × Json)) :
    (checkMembers t ms).Explained := by
  cases t with
  | tcp =>
    exact (((explained_checkTransport _ _).under _).both
      (((explained_checkTextOr _ _).under _).both ((explained_checkPort _).under _))).map _
  | tls =>
    exact (((explained_checkTransport _ _).under _).both
      (((explained_checkTextOr _ _).under _).both (((explained_checkPort _).under _).both
        (((explained_checkText _).under _).both ((explained_checkText _).under _))))).map _
  | unix =>
    exact (((explained_checkTransport _ _).under _).both ((explained_checkText _).under _)).map _

/-- A missing listener has faults. -/
theorem explained_check (v : Option Json) : (check v).Explained := by
  unfold check
  split
  · split
    · exact explained_checkMembers _ _
    · exact .under (.fault (List.cons_ne_nil _ _)) _
  · exact .fault (List.cons_ne_nil _ _)

/-- Listeners of which one is missing have faults. -/
theorem explained_checkItems (first : Nat) (vs : List Json) : (checkItems first vs).Explained := by
  induction vs generalizing first with
  | nil => exact .ok _
  | cons v vs ih => exact (((explained_check _).under _).both (ih _)).map _

/-- A missing list of listeners has faults. -/
theorem explained_checkList (v : Option Json) : (checkList v).Explained := by
  unfold checkList
  split
  · exact .ok _
  · split
    · exact explained_checkItems _ _
    · rename_i hcauses
      exact .fault hcauses
  · exact .fault (List.cons_ne_nil _ _)

/-- **The faults of a list of listeners** are those of its items, one item after the other, each
seen from the list. -/
theorem issues_checkItems (first : Nat) (vs : List Json) :
    (checkItems first vs).issues = (vs.zipIdx first).flatMap fun (v, i) =>
      (check (some v)).issues.map (Issue.below [.index i]) := by
  induction vs generalizing first with
  | nil => rfl
  | cons v vs ih =>
    simp only [checkItems, Checked.issues_map, Checked.issues_both, Checked.issues_under,
      List.zipIdx_cons, List.flatMap_cons, ih]

/-- The faults of a list that is the value of a key: one of the list itself if it is empty, and
those of its items. -/
theorem issues_checkList (vs : List Json) :
    (checkList (some (.arr vs))).issues =
      (if vs = [] then [⟨[], .emptyList⟩] else []) ++ vs.zipIdx.flatMap fun (v, i) =>
        (check (some v)).issues.map (Issue.below [.index i]) := by
  cases vs with
  | nil => rfl
  | cons v vs =>
    rw [if_neg (List.cons_ne_nil v vs), List.nil_append, ← issues_checkItems]
    rfl

end ListenerConfig

/-- Missing knowledge of how much to log has faults. -/
theorem LoggingConfig.explained_check (v : Option Json) : (check v).Explained := by
  unfold check
  split
  · exact .ok _
  · exact (((explained_checkLevel _).under _).both ((explained_checkFlag _ _).under _)).map _
  · exact .fault (List.cons_ne_nil _ _)

/-- A missing configuration has faults. -/
theorem ServerConfig.explained_check (v : Json) : (check v).Explained := by
  unfold check
  split
  · exact (((ListenerConfig.explained_checkList _).under _).both
      ((LoggingConfig.explained_check _).under _)).map _
  · exact .fault (List.cons_ne_nil _ _)

/-- **What reading a configuration accepts and what it reports.** A value is accepted just when it
can be written out, and what is read of it is the value written out. Of any other value there is at
least one fault. Where the listeners are a list, the faults are one of the list itself if it is
empty, then those of each item on its own, one item after the other and seen from the whole value,
and then those of how much to log.

**Proof sketch.** Acceptance is `ServerConfig.completion_iff`. The faults of an object are those of
its keys, in the order in which they are read, and those of a list are `issues_checkItems`. -/
theorem ServerConfig.check_documented (v : Json) :
    (∀ w, (∃ c, check v = .ok c ∧ c.toJson = w) ↔ Completion v w) ∧
    (∀ issues, check v = .error issues → issues ≠ []) ∧
    (∀ items, v.member? "listeners" = some (.arr items) →
      (check v).issues =
        (if items = [] then [⟨[.key "listeners"], .emptyList⟩] else []) ++
        (items.zipIdx.flatMap fun (item, i) =>
          (ListenerConfig.check (some item)).issues.map
            (Issue.below [.key "listeners", .index i])) ++
        (LoggingConfig.check (v.member? "logging")).issues.map (Issue.below [.key "logging"])) := by
  refine ⟨fun w => completion_iff.symm, ?_, ?_⟩
  · intro issues h hnil
    obtain ⟨c, hc⟩ := explained_check v (by rw [h]; exact hnil)
    cases h.symm.trans hc
  · intro items hitems
    cases v with
    | obj ms =>
      have hlist : Json.lookup "listeners" ms = some (.arr items) := hitems
      simp only [check, Json.member?, Checked.field, hlist, Checked.issues_map,
        Checked.issues_both, Checked.issues_under, ListenerConfig.issues_checkList,
        List.map_append, List.map_flatMap, Checked.map_below_map_below]
      split <;> rfl
    | _ => cases hitems

/-- Faults of two items and of how much to log, all at once. -/
example : (ServerConfig.check (.obj [
      ("logging", .obj [("level", .str "trace")]),
      ("listeners", .arr [.obj [("transport", .str "tcp"), ("port", .nat 70000)], .null])])).issues =
    [⟨[.key "listeners", .index 0, .key "port"], .aboveLimit⟩,
      ⟨[.key "listeners", .index 1], .wrongShape .object "null"⟩,
      ⟨[.key "logging", .key "level"], .unknownLevel⟩] := by
  decide +kernel

end TargetUri
