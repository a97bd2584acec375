import TargetUri.Config.Schema
import TargetUri.Proofs.Json.Numeral

set_option autoImplicit false

/-!
# The configurations that reading gives

Which configurations come out of reading a JSON value, said without the readers: texts are not
empty, ports are in range, there is a listener, and the level is one that a configuration may name.
Each of these configurations is read from the JSON value that holds it, so reading is the identity
on its own results.

## Main definitions

* `TargetUri.ListenerConfig.Accepted`, `TargetUri.ServerConfig.Accepted` — the listeners and the
  configurations that reading gives.
* `TargetUri.ServerConfig.settled` — a configuration with the numbers of its ports.

## Main results

* `TargetUri.ServerConfig.accepted_of_check` — reading gives no others.
* `TargetUri.ServerConfig.check_toJson` — each is read from its own JSON value.
* `TargetUri.ServerConfig.settled_eq_self` — only a zero with a minus sign is not a number of its
  own.
-/

namespace TargetUri

/-! ## Values and faults -/

namespace Checked

variable {α β : Type}

/-- Two values are both there, or there are faults. -/
theorem both_eq_ok_iff {a : Checked α} {b : Checked β} {x : α} {y : β} :
    a.both b = .ok (x, y) ↔ a = .ok x ∧ b = .ok y := by
  cases a <;> cases b <;> simp [both]

/-- A step in the paths of faults does not change a value. -/
theorem under_eq_ok_iff {step : PathStep} {a : Checked α} {x : α} :
    a.under step = .ok x ↔ a = .ok x := by
  cases a <;> simp [under]

/-- The value of a key is the one that its reader gives. -/
theorem field_eq_ok_iff {ms : List (String × Json)} {key : String} {check : Option Json → Checked α}
    {x : α} : field ms key check = .ok x ↔ check (Json.lookup key ms) = .ok x :=
  under_eq_ok_iff

/-- A value that is made of another. -/
theorem map_eq_ok_iff {a : Checked α} {f : α → β} {y : β} :
    a.map f = .ok y ↔ ∃ x, a = .ok x ∧ f x = y := by
  cases a <;> simp [Except.map]

end Checked

/-! ## Single values -/

/-- A text is read just when there is one and it is not empty. -/
theorem checkText_eq_ok_iff {v : Option Json} {s : WideString} :
    checkText v = .ok s ↔ v = some (.str s) ∧ s ≠ "" := by
  constructor
  · intro h
    unfold checkText at h
    split at h
    · split at h
      · rename_i hcauses
        cases h
        refine ⟨rfl, ?_⟩
        rintro rfl
        simp [lengthCauses] at hcauses
      · cases h
    · cases h
  · rintro ⟨rfl, hs⟩
    simp [checkText, lengthCauses, hs]

/-- A text with a default is read just when there is none, or one that is not empty. -/
theorem checkTextOr_eq_ok_iff {default s : WideString} {v : Option Json} :
    checkTextOr default v = .ok s ↔ v = none ∧ s = default ∨ v = some (.str s) ∧ s ≠ "" := by
  cases v with
  | none => simp [checkTextOr, eq_comm]
  | some v => simp [checkTextOr, checkText_eq_ok_iff]

/-- A text that is read, or stands in for a missing one, is not empty. -/
theorem ne_empty_of_checkTextOr {default s : WideString} (hdefault : default ≠ "") {v : Option Json}
    (h : checkTextOr default v = .ok s) : s ≠ "" := by
  rcases checkTextOr_eq_ok_iff.mp h with ⟨-, rfl⟩ | ⟨-, hs⟩
  · exact hdefault
  · exact hs

/-- A whole number without faults is a port. -/
theorem portCauses_eq_nil_iff {n : Int} : portCauses n = [] ↔ 0 ≤ n ∧ n ≤ 65535 := by
  have hsafe : 0 ≤ n → n ≤ 65535 → ¬safeLimit < n ∧ ¬n < -safeLimit := by
    unfold safeLimit
    omega
  rw [portCauses, List.append_eq_nil_iff, portLimit]
  constructor
  · rintro ⟨-, hlimit⟩
    by_cases hneg : n < 0
    · simp [hneg] at hlimit
    · by_cases hbig : 65535 < n
      · simp [hneg, hbig] at hlimit
      · omega
  · rintro ⟨hneg, hbig⟩
    obtain ⟨habove, hbelow⟩ := hsafe hneg hbig
    rw [if_neg habove, if_neg hbelow, if_neg (by omega), if_neg (by omega)]
    exact ⟨rfl, rfl⟩

/-- What a 64-bit binary value keeps of the number of a port. -/
def Port.rounded : Port → Decimal.Rounded
  | .number n => .whole n
  | .minusZero => .minusZero

/-- A port is read just when there is a number whose value is a whole one in range. -/
theorem checkPort_eq_ok_iff {v : Option Json} {p : Port} :
    checkPort v = .ok p ↔ ∃ d, v = some (.num d) ∧ d.round = p.rounded ∧ p.toNat ≤ 65535 := by
  constructor
  · intro h
    unfold checkPort at h
    split at h
    · rename_i d
      split at h
      · cases h
      · cases h
      · rename_i hround
        cases h
        exact ⟨d, rfl, hround, Nat.zero_le _⟩
      · rename_i n hround
        split at h
        · rename_i hcauses
          obtain ⟨hpos, hle⟩ := portCauses_eq_nil_iff.mp hcauses
          cases h
          refine ⟨d, rfl, by rw [hround, Port.rounded, Int.toNat_of_nonneg hpos], ?_⟩
          show n.toNat ≤ 65535
          omega
        · cases h
    · cases h
  · rintro ⟨d, rfl, hround, hle⟩
    cases p with
    | minusZero => simp only [checkPort, hround, Port.rounded]
    | number n =>
      have hcauses : portCauses n = [] :=
        portCauses_eq_nil_iff.mpr ⟨Int.natCast_nonneg n, Int.ofNat_le.mpr hle⟩
      simp only [checkPort, hround, Port.rounded, hcauses, Int.toNat_natCast]

/-- A port that is read is in range. -/
theorem le_of_checkPort {v : Option Json} {p : Port} (h : checkPort v = .ok p) :
    p.toNat ≤ 65535 := by
  obtain ⟨-, -, -, hle⟩ := checkPort_eq_ok_iff.mp h
  exact hle

/-- A port in range is read. -/
theorem checkPort_toJson {p : Port} (h : p.toNat ≤ 65535) : checkPort (some p.toJson) = .ok p := by
  cases p with
  | minusZero => rfl
  | number n =>
    exact checkPort_eq_ok_iff.mpr
      ⟨_, rfl, Decimal.round_ofInt (Nat.lt_of_le_of_lt h (by decide)), h⟩

/-- The level of a name is the one that has it. -/
theorem Level.ofName?_eq_some_iff {s : String} {l : Level} : ofName? s = some l ↔ l.name = s := by
  constructor
  · intro h
    simpa using List.find?_some h
  · rintro rfl
    cases l <;> rfl

/-- A level is read just when there is none, or the name of one that a configuration may name. -/
theorem checkLevel_eq_ok_iff {v : Option Json} {l : Level} :
    checkLevel v = .ok l ↔
      v = none ∧ l = .info ∨ v = some (.str l.name) ∧ l.name ∈ levelNames := by
  constructor
  · intro h
    unfold checkLevel at h
    split at h
    · cases h
      exact .inl ⟨rfl, rfl⟩
    · split at h
      · rename_i hs
        split at h
        · rename_i hk
          cases h
          obtain rfl := Level.ofName?_eq_some_iff.mp hk
          exact .inr ⟨rfl, hs⟩
        · cases h
      · cases h
    · cases h
  · rintro (⟨rfl, rfl⟩ | ⟨rfl, hl⟩)
    · rfl
    · simp only [checkLevel, if_pos hl, Level.ofName?_eq_some_iff.mpr rfl]

/-- A truth value with a default is read just when there is none, or one. -/
theorem checkFlag_eq_ok_iff {default b : Bool} {v : Option Json} :
    checkFlag default v = .ok b ↔ v = none ∧ b = default ∨ v = some (.bool b) := by
  unfold checkFlag
  split
  · simp [eq_comm]
  · simp
  · rename_i hnone hbool
    refine iff_of_false nofun ?_
    rintro (⟨rfl, -⟩ | rfl)
    · exact hnone rfl
    · exact hbool b rfl

/-! ## Listeners -/

namespace ListenerConfig

/-- A listener that reading gives: its texts are not empty and its port is in range. -/
def Accepted : ListenerConfig → Prop
  | .tcp hostname port => hostname ≠ "" ∧ port.toNat ≤ 65535
  | .tls hostname port certPath keyPath =>
    hostname ≠ "" ∧ port.toNat ≤ 65535 ∧ certPath ≠ "" ∧ keyPath ≠ ""
  | .unix path => path ≠ ""

/-- Whether reading gives a listener can be decided. -/
instance : DecidablePred Accepted
  | .tcp .. => inferInstanceAs (Decidable (_ ∧ _))
  | .tls .. => inferInstanceAs (Decidable (_ ∧ _))
  | .unix path => inferInstanceAs (Decidable (path ≠ .text ""))

/-- Reading the members of a listener gives an accepted one. -/
theorem accepted_of_checkMembers {t : StreamType} {ms : List (String × Json)} {l : ListenerConfig}
    (h : checkMembers t ms = .ok l) : l.Accepted := by
  cases t with
  | tcp =>
    obtain ⟨⟨u, hostname, port⟩, hread, rfl⟩ := Checked.map_eq_ok_iff.mp h
    simp only [Checked.both_eq_ok_iff, Checked.field_eq_ok_iff] at hread
    obtain ⟨-, hhost, hport⟩ := hread
    exact ⟨ne_empty_of_checkTextOr (by decide) hhost, le_of_checkPort hport⟩
  | tls =>
    obtain ⟨⟨u, hostname, port, certPath, keyPath⟩, hread, rfl⟩ := Checked.map_eq_ok_iff.mp h
    simp only [Checked.both_eq_ok_iff, Checked.field_eq_ok_iff] at hread
    obtain ⟨-, hhost, hport, hcert, hkey⟩ := hread
    exact ⟨ne_empty_of_checkTextOr (by decide) hhost, le_of_checkPort hport,
      (checkText_eq_ok_iff.mp hcert).2, (checkText_eq_ok_iff.mp hkey).2⟩
  | unix =>
    obtain ⟨⟨u, path⟩, hread, rfl⟩ := Checked.map_eq_ok_iff.mp h
    simp only [Checked.both_eq_ok_iff, Checked.field_eq_ok_iff] at hread
    exact (checkText_eq_ok_iff.mp hread.2).2

/-- Reading a listener gives an accepted one. -/
theorem accepted_of_check {v : Option Json} {l : ListenerConfig} (h : check v = .ok l) :
    l.Accepted := by
  unfold check at h
  split at h
  · split at h
    · exact accepted_of_checkMembers h
    · cases h
  · cases h

/-- **An accepted listener is read from its own JSON value.** -/
theorem check_toJson {l : ListenerConfig} (h : l.Accepted) : check (some l.toJson) = .ok l := by
  cases l with
  | tcp hostname port =>
    obtain ⟨hhost, hport⟩ := h
    refine Checked.map_eq_ok_iff.mpr ⟨((), hostname, port), ?_, rfl⟩
    simp only [Checked.both_eq_ok_iff, Checked.field_eq_ok_iff]
    exact ⟨rfl, checkTextOr_eq_ok_iff.mpr (.inr ⟨rfl, hhost⟩), checkPort_toJson hport⟩
  | tls hostname port certPath keyPath =>
    obtain ⟨hhost, hport, hcert, hkey⟩ := h
    refine Checked.map_eq_ok_iff.mpr ⟨((), hostname, port, certPath, keyPath), ?_, rfl⟩
    simp only [Checked.both_eq_ok_iff, Checked.field_eq_ok_iff]
    exact ⟨rfl, checkTextOr_eq_ok_iff.mpr (.inr ⟨rfl, hhost⟩), checkPort_toJson hport,
      checkText_eq_ok_iff.mpr ⟨rfl, hcert⟩, checkText_eq_ok_iff.mpr ⟨rfl, hkey⟩⟩
  | unix path =>
    refine Checked.map_eq_ok_iff.mpr ⟨((), path), ?_, rfl⟩
    simp only [Checked.both_eq_ok_iff, Checked.field_eq_ok_iff]
    exact ⟨rfl, checkText_eq_ok_iff.mpr ⟨rfl, h⟩⟩

/-- Reading the items of a list gives accepted listeners, one for each. -/
theorem accepted_of_checkItems {first : Nat} {vs : List Json} {ls : List ListenerConfig}
    (h : checkItems first vs = .ok ls) : ls.length = vs.length ∧ ∀ l ∈ ls, l.Accepted := by
  induction vs generalizing first ls with
  | nil =>
    cases h
    exact ⟨rfl, fun l hl => absurd hl List.not_mem_nil⟩
  | cons v vs ih =>
    obtain ⟨⟨l, ls'⟩, hread, rfl⟩ := Checked.map_eq_ok_iff.mp h
    obtain ⟨hl, hls⟩ := Checked.both_eq_ok_iff.mp hread
    obtain ⟨hlen, hall⟩ := ih hls
    refine ⟨congrArg (· + 1) hlen, fun x hx => ?_⟩
    rcases List.mem_cons.mp hx with rfl | hx
    · exact accepted_of_check (Checked.under_eq_ok_iff.mp hl)
    · exact hall x hx

/-- Accepted listeners are read from the list of their JSON values. -/
theorem checkItems_toJson {ls : List ListenerConfig} (h : ∀ l ∈ ls, l.Accepted) (first : Nat) :
    checkItems first (ls.map toJson) = .ok ls := by
  induction ls generalizing first with
  | nil => rfl
  | cons l ls ih =>
    obtain ⟨hl, hls⟩ := List.forall_mem_cons.mp h
    refine Checked.map_eq_ok_iff.mpr ⟨(l, ls), Checked.both_eq_ok_iff.mpr ⟨?_, ih hls _⟩, rfl⟩
    exact Checked.under_eq_ok_iff.mpr (check_toJson hl)

/-- Reading a list, or none, gives accepted listeners, at least one. -/
theorem accepted_of_checkList {v : Option Json} {ls : List ListenerConfig}
    (h : checkList v = .ok ls) : ls ≠ [] ∧ ∀ l ∈ ls, l.Accepted := by
  unfold checkList at h
  split at h
  · cases h
    refine ⟨by decide, fun l hl => ?_⟩
    obtain rfl := List.mem_singleton.mp hl
    exact ⟨by decide, by decide⟩
  · rename_i vs
    split at h
    · rename_i hcauses
      obtain ⟨hlen, hall⟩ := accepted_of_checkItems h
      refine ⟨?_, hall⟩
      rintro rfl
      obtain rfl := List.length_eq_zero_iff.mp hlen.symm
      simp [lengthCauses] at hcauses
    · cases h
  · cases h

/-- Accepted listeners, at least one, are read from their JSON values. -/
theorem checkList_toJson {ls : List ListenerConfig} (hne : ls ≠ []) (h : ∀ l ∈ ls, l.Accepted) :
    checkList (some (.arr (ls.map toJson))) = .ok ls := by
  cases ls with
  | nil => exact absurd rfl hne
  | cons l ls =>
    have hread := checkItems_toJson h 0
    rw [List.map_cons] at hread ⊢
    exact hread

end ListenerConfig

/-! ## Configurations -/

/-- A configuration that reading gives: it has a listener, each of its listeners can be read, and
its level is one that a configuration may name. -/
structure ServerConfig.Accepted (c : ServerConfig) : Prop where
  /-- there is a listener -/
  ne_nil : c.listeners ≠ []
  /-- each listener is one that reading gives -/
  listeners : ∀ l ∈ c.listeners, l.Accepted
  /-- the level may be named -/
  level : c.logging.level.name ∈ levelNames

/-- Reading how much to log gives a level that may be named. -/
theorem LoggingConfig.mem_levelNames_of_check {v : Option Json} {l : LoggingConfig}
    (h : LoggingConfig.check v = .ok l) : l.level.name ∈ levelNames := by
  unfold check at h
  split at h
  · cases h
    decide
  · obtain ⟨⟨level, pretty⟩, hread, rfl⟩ := Checked.map_eq_ok_iff.mp h
    simp only [Checked.both_eq_ok_iff, Checked.field_eq_ok_iff] at hread
    rcases checkLevel_eq_ok_iff.mp hread.1 with ⟨-, rfl⟩ | ⟨-, hlevel⟩
    · show Level.info.name ∈ levelNames
      decide
    · exact hlevel
  · cases h

namespace ServerConfig

/-- **Reading gives accepted configurations only.** -/
theorem accepted_of_check {j : Json} {c : ServerConfig} (h : check j = .ok c) : c.Accepted := by
  unfold check at h
  split at h
  · obtain ⟨⟨listeners, logging⟩, hread, rfl⟩ := Checked.map_eq_ok_iff.mp h
    simp only [Checked.both_eq_ok_iff, Checked.field_eq_ok_iff] at hread
    obtain ⟨hne, hall⟩ := ListenerConfig.accepted_of_checkList hread.1
    exact ⟨hne, hall, LoggingConfig.mem_levelNames_of_check hread.2⟩
  · cases h

/-- **Each accepted configuration is read from its own JSON value.** -/
theorem check_toJson {c : ServerConfig} (h : c.Accepted) : check c.toJson = .ok c := by
  have hlogging : LoggingConfig.check (some (.obj [("level", .str c.logging.level.name),
      ("pretty", .bool c.logging.pretty)])) = .ok c.logging := by
    refine Checked.map_eq_ok_iff.mpr ⟨(c.logging.level, c.logging.pretty), ?_, rfl⟩
    simp only [Checked.both_eq_ok_iff, Checked.field_eq_ok_iff]
    exact ⟨checkLevel_eq_ok_iff.mpr (.inr ⟨rfl, h.level⟩), rfl⟩
  refine Checked.map_eq_ok_iff.mpr ⟨(c.listeners, c.logging), ?_, rfl⟩
  simp only [Checked.both_eq_ok_iff, Checked.field_eq_ok_iff]
  exact ⟨ListenerConfig.checkList_toJson h.ne_nil h.listeners, hlogging⟩

end ServerConfig

/-! ## Zeros with a minus sign -/

/-- A port as the number that it is, also zero with a minus sign. -/
def Port.settled (p : Port) : Port := .number p.toNat

/-- A listener on the number of its port. -/
def ListenerConfig.settled : ListenerConfig → ListenerConfig
  | tcp hostname port => tcp hostname port.settled
  | tls hostname port certPath keyPath => tls hostname port.settled certPath keyPath
  | unix path => unix path

/-- **The same configuration, each port as the number that it is**: one that is zero with a minus
sign is a plain zero. -/
def ServerConfig.settled (c : ServerConfig) : ServerConfig :=
  { c with listeners := c.listeners.map ListenerConfig.settled }

/-- The number of an accepted port is accepted. -/
theorem ServerConfig.Accepted.settled {c : ServerConfig} (h : c.Accepted) : c.settled.Accepted where
  ne_nil := fun hnil => h.ne_nil (List.map_eq_nil_iff.mp hnil)
  listeners := by
    intro l hl
    obtain ⟨k, hk, rfl⟩ := List.mem_map.mp hl
    have hk := h.listeners k hk
    cases k with
    | tcp | tls | unix => exact hk
  level := h.level

end TargetUri
