import Mathlib.Logic.Relation
import TargetUri.Proofs.Config.Accepted

set_option autoImplicit false

/-!
# Edits that reading does not see

A configuration is read by its known keys. Members that nobody asks for may come and go, the members
of an object may stand in any order, and a default may be written out or left out: what is read, or
everything that is reported instead, stays the same to the letter.

## Main definitions

* `TargetUri.Json.Reordered` — the members of one object, at any depth, stand in another order.
* `TargetUri.Addition` — one more member, of a key that is not asked for or with the default of one
  that is missing.
* `TargetUri.ServerConfig.Edit` — one such change of a configuration.

## Main results

* `TargetUri.Addition.lookup_cases` — what an addition does to the keys that are asked for.
* `TargetUri.Json.Reordered.lookup_cases` — what another order does to them.
* `TargetUri.ServerConfig.check_of_edit` — one edit is not seen.
* `TargetUri.ServerConfig.check_indifferent` — nor are edits in a row, in either direction.
-/

namespace TargetUri

/-! ## Looking up keys -/

namespace Json

variable {before after : List (String × Json)} {key k : String} {v w : Json}

/-- The value of a key only depends on the members of that key. -/
theorem lookup_filter (key : String) (ms : List (String × Json)) :
    lookup key (ms.filter (·.1 = key)) = lookup key ms := by
  induction ms with
  | nil => rfl
  | cons m ms ih =>
    obtain ⟨k, v⟩ := m
    by_cases hk : k = key
    · rw [List.filter_cons_of_pos (by simpa using hk), lookup_cons, lookup_cons, ih]
    · rw [List.filter_cons_of_neg (by simpa using hk), lookup_cons, if_neg hk, Option.or_none, ih]

/-- One more member leaves the values of other keys as they are. -/
theorem lookup_insert_of_ne (h : k ≠ key) :
    lookup key (before ++ (k, v) :: after) = lookup key (before ++ after) := by
  rw [lookup_append, lookup_append, lookup_cons, if_neg h, Option.or_none]

/-- One more member gives a value to its key, where that had none. -/
theorem lookup_insert_self (h : lookup key (before ++ after) = none) :
    lookup key (before ++ (key, v) :: after) = some v := by
  rw [lookup_append, Option.or_eq_none_iff] at h
  rw [lookup_append, lookup_cons, h.1, if_pos rfl, Option.none_or, Option.some_or]

/-- Another value of one member is another value of its key, or of none. -/
theorem lookup_replace (before after : List (String × Json)) (key k : String) (v w : Json) :
    lookup key (before ++ (k, v) :: after) = lookup key (before ++ (k, w) :: after) ∨
      k = key ∧ lookup key (before ++ (k, v) :: after) = some v ∧
        lookup key (before ++ (k, w) :: after) = some w := by
  simp only [lookup_append, lookup_cons]
  cases lookup key after with
  | some x => exact .inl rfl
  | none =>
    by_cases hk : k = key
    · exact .inr ⟨hk, by simp [hk], by simp [hk]⟩
    · exact .inl (by simp [hk])

end Json

/-- What is read of a key when a member has another value, which is read in the same way if the
member is one of that key. -/
theorem Checked.field_replace {α : Type} {before after : List (String × Json)} {key k : String}
    {v w : Json} {check : Option Json → Checked α} (h : k = key → check (some v) = check (some w)) :
    Checked.field (before ++ (k, v) :: after) key check =
      Checked.field (before ++ (k, w) :: after) key check := by
  refine congrArg (Checked.under _) ?_
  rcases Json.lookup_replace before after key k v w with heq | ⟨hkey, hv, hw⟩
  · rw [heq]
  · rw [hv, hw, h hkey]

/-! ## Another order -/

namespace Json

/-- **Another order**: the members of one object, at any depth, are put into another order. Members
that repeat a key keep their order among themselves. -/
inductive Reordered : Json → Json → Prop
  /-- the members of this object -/
  | members {ms ns : List (String × Json)}
      (h : ∀ key, ms.filter (·.1 = key) = ns.filter (·.1 = key)) : Reordered (.obj ms) (.obj ns)
  /-- within the value of a member -/
  | inMember {before after : List (String × Json)} {key : String} {v w : Json}
      (h : Reordered v w) :
      Reordered (.obj (before ++ (key, v) :: after)) (.obj (before ++ (key, w) :: after))
  /-- within an item -/
  | inItem {before after : List Json} {v w : Json} (h : Reordered v w) :
      Reordered (.arr (before ++ v :: after)) (.arr (before ++ w :: after))

/-- Members of different keys, in any order, are the same members in another order. -/
theorem Reordered.of_perm {ms ns : List (String × Json)} (h : ms.Perm ns)
    (hkeys : (ms.map (·.1)).Nodup) : Reordered (.obj ms) (.obj ns) := by
  refine .members fun key => ?_
  have hperm := h.filter (·.1 = key)
  have hnodup : ((ms.filter (·.1 = key)).map (·.1)).Nodup :=
    hkeys.sublist (List.filter_sublist.map _)
  have hkey : ∀ m ∈ ms.filter (·.1 = key), m.1 = key := fun m hm => by
    simpa using (List.mem_filter.mp hm).2
  -- one member at most has the key, so there is nothing to put into another order
  match hfilter : ms.filter (·.1 = key) with
  | [] =>
    rw [hfilter] at hperm ⊢
    exact hperm.nil_eq
  | [m] =>
    rw [hfilter] at hperm ⊢
    exact (List.perm_singleton.mp hperm.symm).symm
  | m :: m' :: rest =>
    rw [hfilter] at hnodup hkey
    have heq : m.1 = m'.1 := (hkey m (by simp)).trans (hkey m' (by simp)).symm
    exact absurd hnodup (by simp [heq])

namespace Reordered

variable {v w : Json} {ms ns : List (String × Json)}

/-- **What another order does to the keys**: a key has the value that it had, or that value with the
members of an object in it in another order. -/
theorem lookup_cases (h : Reordered (.obj ms) (.obj ns)) (key : String) :
    lookup key ms = lookup key ns ∨
      ∃ v w, Reordered v w ∧ lookup key ms = some v ∧ lookup key ns = some w := by
  generalize hv : Json.obj ms = v at h
  generalize hw : Json.obj ns = w at h
  cases h with
  | members h =>
    cases hv
    cases hw
    exact .inl (by rw [← lookup_filter, h, lookup_filter])
  | inMember h =>
    cases hv
    cases hw
    rcases lookup_replace _ _ key _ _ _ with heq | ⟨-, hleft, hright⟩
    · exact .inl heq
    · exact .inr ⟨_, _, h, hleft, hright⟩
  | inItem h => cases hv

/-- Another order is one of an object, or one within an item of a list. -/
theorem shape (h : Reordered v w) :
    (∃ ms ns, v = .obj ms ∧ w = .obj ns) ∨
      ∃ before after x y, v = .arr (before ++ x :: after) ∧ w = .arr (before ++ y :: after) ∧
        Reordered x y := by
  cases h with
  | members => exact .inl ⟨_, _, rfl, rfl⟩
  | inMember => exact .inl ⟨_, _, rfl, rfl⟩
  | inItem h => exact .inr ⟨_, _, _, _, rfl, rfl, h⟩

end Reordered

end Json

/-! ## Readers and another order -/

namespace Json.Reordered

variable {v w : Json} {ms ns : List (String × Json)}

/-- The number that a value counts as. -/
theorem number?_eq (h : Reordered v w) : v.number? = w.number? := by
  induction h with
  | members => rfl
  | inMember => rfl
  | inItem h ih =>
    rename_i before after _ _
    -- where there are other items too the list counts as no number
    match before, after with
    | _ :: [], _ | _ :: _ :: _, _ | [], _ :: _ =>
      exact (number?_arr_cons_cons _ _ _).trans (number?_arr_cons_cons _ _ _).symm
    | [], [] => cases h <;> exact ih

/-- What is wrong with the length of a value. -/
theorem lengthCauses_eq (h : Reordered v w) : lengthCauses (some v) = lengthCauses (some w) := by
  rcases h.shape with ⟨ms, ns, rfl, rfl⟩ | ⟨before, after, x, y, rfl, rfl, -⟩
  · have hpositive : (lookup "length" ms).all isPositive = (lookup "length" ns).all isPositive := by
      rcases h.lookup_cases "length" with heq | ⟨x, y, hxy, hx, hy⟩
      · rw [heq]
      · rw [hx, hy, Option.all_some, Option.all_some, isPositive, isPositive, hxy.number?_eq]
    simp only [lengthCauses, hpositive]
  · cases before <;> rfl

/-- A text. -/
theorem checkText_eq (h : Reordered v w) : checkText (some v) = checkText (some w) := by
  have hlength := h.lengthCauses_eq
  cases h <;> simp only [checkText, wrongShapeOrEmpty, foundName, hlength]

/-- A text with a default. -/
theorem checkTextOr_eq (default : String) (h : Reordered v w) :
    checkTextOr default (some v) = checkTextOr default (some w) := h.checkText_eq

/-- A port. -/
theorem checkPort_eq (h : Reordered v w) : checkPort (some v) = checkPort (some w) := by
  cases h <;> rfl

/-- A transport. -/
theorem checkTransport_eq (t : StreamType) (h : Reordered v w) :
    checkTransport t (some v) = checkTransport t (some w) := by
  cases h <;> rfl

/-- A level. -/
theorem checkLevel_eq (h : Reordered v w) : checkLevel (some v) = checkLevel (some w) := by
  cases h <;> rfl

/-- A truth value. -/
theorem checkFlag_eq (default : Bool) (h : Reordered v w) :
    checkFlag default (some v) = checkFlag default (some w) := by
  cases h <;> rfl

/-- The value of a key, where another order in it is not seen. -/
theorem field_eq {α : Type} {check : Option Json → Checked α}
    (h : Reordered (.obj ms) (.obj ns))
    (hcheck : ∀ {v w}, Reordered v w → check (some v) = check (some w)) (key : String) :
    Checked.field ms key check = Checked.field ns key check := by
  refine congrArg (Checked.under _) ?_
  rcases h.lookup_cases key with heq | ⟨v, w, hvw, hv, hw⟩
  · rw [heq]
  · rw [hv, hw, hcheck hvw]

/-- The transport that the members of a listener name. -/
theorem namedTransport?_eq (h : Reordered (.obj ms) (.obj ns)) :
    ListenerConfig.namedTransport? ms = ListenerConfig.namedTransport? ns := by
  unfold ListenerConfig.namedTransport?
  rcases h.lookup_cases "transport" with heq | ⟨v, w, hvw, hv, hw⟩
  · rw [heq]
  · rw [hv, hw]
    cases hvw <;> rfl

/-- The members of a listener. -/
theorem checkMembers_eq (h : Reordered (.obj ms) (.obj ns)) (t : StreamType) :
    ListenerConfig.checkMembers t ms = ListenerConfig.checkMembers t ns := by
  have htransport := h.field_eq (checkTransport_eq t) "transport"
  cases t with
  | tcp =>
    simp only [ListenerConfig.checkMembers, ListenerConfig.checkTcpMembers, htransport,
      h.field_eq (checkTextOr_eq _), h.field_eq checkPort_eq]
  | tls =>
    simp only [ListenerConfig.checkMembers, ListenerConfig.checkTlsMembers, htransport,
      h.field_eq (checkTextOr_eq _), h.field_eq checkPort_eq, h.field_eq checkText_eq]
  | unix =>
    simp only [ListenerConfig.checkMembers, ListenerConfig.checkUnixMembers, htransport,
      h.field_eq checkText_eq]

/-- A listener. -/
theorem checkListener_eq (h : Reordered v w) :
    ListenerConfig.check (some v) = ListenerConfig.check (some w) := by
  rcases h.shape with ⟨ms, ns, rfl, rfl⟩ | ⟨before, after, x, y, rfl, rfl, -⟩
  · simp only [ListenerConfig.check, h.namedTransport?_eq, h.checkMembers_eq]
  · rfl

end Json.Reordered

namespace ListenerConfig

/-- An item that is read like another may stand in its place. -/
theorem checkItems_replace {v w : Json} (h : check (some v) = check (some w))
    (before after : List Json) (first : Nat) :
    checkItems first (before ++ v :: after) = checkItems first (before ++ w :: after) := by
  induction before generalizing first with
  | nil => simp only [List.nil_append, checkItems, h]
  | cons x before ih => simp only [List.cons_append, checkItems, ih]

/-- The items of a list that is not empty are read one after the other. -/
theorem checkList_of_ne_nil {vs : List Json} (h : vs ≠ []) :
    checkList (some (.arr vs)) = checkItems 0 vs := by
  cases vs with
  | nil => exact absurd rfl h
  | cons v vs => rfl

/-- An item of a list that is read like another may stand in its place. -/
theorem checkList_replace {v w : Json} (h : check (some v) = check (some w))
    (before after : List Json) :
    checkList (some (.arr (before ++ v :: after))) =
      checkList (some (.arr (before ++ w :: after))) := by
  rw [checkList_of_ne_nil (by simp), checkList_of_ne_nil (by simp), checkItems_replace h]

end ListenerConfig

namespace Json.Reordered

variable {v w : Json}

/-- A list of listeners. -/
theorem checkList_eq (h : Reordered v w) :
    ListenerConfig.checkList (some v) = ListenerConfig.checkList (some w) := by
  have hlength := h.lengthCauses_eq
  rcases h.shape with ⟨ms, ns, rfl, rfl⟩ | ⟨before, after, x, y, rfl, rfl, hxy⟩
  · simp only [ListenerConfig.checkList, wrongShapeOrEmpty, foundName, hlength]
  · exact ListenerConfig.checkList_replace hxy.checkListener_eq before after

/-- How much to log. -/
theorem checkLogging_eq (h : Reordered v w) :
    LoggingConfig.check (some v) = LoggingConfig.check (some w) := by
  rcases h.shape with ⟨ms, ns, rfl, rfl⟩ | ⟨before, after, x, y, rfl, rfl, -⟩
  · simp only [LoggingConfig.check, h.field_eq checkLevel_eq, h.field_eq (checkFlag_eq _)]
  · rfl

/-- **Another order is not seen.** -/
theorem checkServer_eq (h : Reordered v w) : ServerConfig.check v = ServerConfig.check w := by
  rcases h.shape with ⟨ms, ns, rfl, rfl⟩ | ⟨before, after, x, y, rfl, rfl, -⟩
  · simp only [ServerConfig.check, h.field_eq checkList_eq, h.field_eq checkLogging_eq]
  · rfl

end Json.Reordered

/-! ## Additions -/

/-- **One more member**: one of a key that is not asked for, or the default of a key that is
missing. -/
inductive Addition (named : List String) (defaults : List (String × Json)) :
    List (String × Json) → List (String × Json) → Prop
  /-- a member that nobody asks for -/
  | unknown {before after : List (String × Json)} {key : String} {value : Json}
      (h : key ∉ named) : Addition named defaults (before ++ after) (before ++ (key, value) :: after)
  /-- a default -/
  | default {before after : List (String × Json)} {key : String} {value : Json}
      (hdefault : (key, value) ∈ defaults) (hmissing : Json.lookup key (before ++ after) = none) :
      Addition named defaults (before ++ after) (before ++ (key, value) :: after)

namespace Addition

variable {α : Type} {named : List String} {defaults : List (String × Json)}
  {ms ns : List (String × Json)}

/-- **What an addition does to the keys that are asked for**: a key keeps its value, or it had none
and now has its default. -/
theorem lookup_cases (h : Addition named defaults ms ns) {key : String} (hkey : key ∈ named) :
    Json.lookup key ms = Json.lookup key ns ∨
      ∃ value, (key, value) ∈ defaults ∧ Json.lookup key ms = none ∧
        Json.lookup key ns = some value := by
  cases h with
  | unknown h =>
    refine .inl (Json.lookup_insert_of_ne ?_).symm
    rintro rfl
    exact h hkey
  | default hdefault hmissing =>
    rename_i before after k value
    by_cases hk : k = key
    · subst hk
      exact .inr ⟨value, hdefault, hmissing, Json.lookup_insert_self hmissing⟩
    · exact .inl (Json.lookup_insert_of_ne hk).symm

/-- The value of a key without a default. -/
theorem lookup_eq (h : Addition named defaults ms ns) {key : String} (hkey : key ∈ named)
    (hnone : key ∉ defaults.map (·.1)) : Json.lookup key ms = Json.lookup key ns := by
  rcases h.lookup_cases hkey with heq | ⟨value, hdefault, -, -⟩
  · exact heq
  · exact absurd (List.mem_map_of_mem hdefault) hnone

/-- What is read of a key without a default. -/
theorem field_eq (h : Addition named defaults ms ns) (key : String) (hkey : key ∈ named)
    (hnone : key ∉ defaults.map (·.1)) (check : Option Json → Checked α) :
    Checked.field ms key check = Checked.field ns key check := by
  rw [Checked.field, h.lookup_eq hkey hnone, Checked.field]

/-- What is read of a key whose default is read like a missing value. -/
theorem field_default_eq (h : Addition named defaults ms ns) (key : String) (hkey : key ∈ named)
    (check : Option Json → Checked α)
    (hcheck : ∀ value, (key, value) ∈ defaults → check none = check (some value)) :
    Checked.field ms key check = Checked.field ns key check := by
  refine congrArg (Checked.under _) ?_
  rcases h.lookup_cases hkey with heq | ⟨value, hdefault, hms, hns⟩
  · rw [heq]
  · rw [hms, hns, hcheck value hdefault]

end Addition

/-- A default that is written out is read like a missing text. -/
theorem checkTextOr_default {default : WideString} (h : default ≠ "") :
    checkTextOr default none = checkTextOr default (some (.str default)) :=
  (checkTextOr_eq_ok_iff.mpr (.inr ⟨rfl, h⟩)).symm

namespace ListenerConfig

/-- The keys that are asked for of a listener, by the transport that it names. -/
def keys : Option StreamType → List String
  | some .tcp => ["transport", "hostname", "port"]
  | some .tls => ["transport", "hostname", "port", "certPath", "keyPath"]
  | some .unix => ["transport", "path"]
  | none => ["transport"]

/-- The defaults of a listener, by the transport that it names. -/
def defaults : Option StreamType → List (String × Json)
  | some .tcp => [("hostname", .str "127.0.0.1")]
  | some .tls => [("hostname", .str "0.0.0.0")]
  | _ => []

/-- The transport is always asked for. -/
theorem transport_mem_keys (t : Option StreamType) : "transport" ∈ keys t := by
  rcases t with - | (- | - | -) <;> decide

/-- The transport has no default. -/
theorem transport_not_mem_defaults (t : Option StreamType) :
    "transport" ∉ (defaults t).map (·.1) := by
  rcases t with - | (- | - | -) <;> decide

/-- **An addition to a listener is not seen.** -/
theorem check_of_addition {ms ns : List (String × Json)}
    (h : Addition (keys (namedTransport? ms)) (defaults (namedTransport? ms)) ms ns) :
    check (some (.obj ms)) = check (some (.obj ns)) := by
  have hnamed : namedTransport? ms = namedTransport? ns := by
    rw [namedTransport?, h.lookup_eq (transport_mem_keys _) (transport_not_mem_defaults _),
      namedTransport?]
  simp only [check, ← hnamed]
  cases ht : namedTransport? ms with
  | none => rfl
  | some t =>
    rw [ht] at h
    cases t with
    | tcp =>
      have hhost := h.field_default_eq "hostname" (by decide) (checkTextOr defaultTcpHostname)
        fun value hvalue => by
          obtain rfl : value = .str defaultTcpHostname := by
            simpa [defaults, defaultTcpHostname] using hvalue
          exact checkTextOr_default (by decide)
      simp only [checkMembers, checkTcpMembers, hhost,
        h.field_eq "transport" (by decide) (by decide), h.field_eq "port" (by decide) (by decide)]
    | tls =>
      have hhost := h.field_default_eq "hostname" (by decide) (checkTextOr defaultTlsHostname)
        fun value hvalue => by
          obtain rfl : value = .str defaultTlsHostname := by
            simpa [defaults, defaultTlsHostname] using hvalue
          exact checkTextOr_default (by decide)
      simp only [checkMembers, checkTlsMembers, hhost,
        h.field_eq "transport" (by decide) (by decide), h.field_eq "port" (by decide) (by decide),
        h.field_eq "certPath" (by decide) (by decide), h.field_eq "keyPath" (by decide) (by decide)]
    | unix =>
      simp only [checkMembers, checkUnixMembers, h.field_eq "transport" (by decide) (by decide),
        h.field_eq "path" (by decide) (by decide)]

end ListenerConfig

namespace LoggingConfig

/-- The keys that are asked for of how much to log. -/
def keys : List String := ["level", "pretty"]

/-- Their defaults. -/
def defaults : List (String × Json) := [("level", .str "info"), ("pretty", .bool false)]

/-- **An addition to how much to log is not seen.** -/
theorem check_of_addition {ms ns : List (String × Json)} (h : Addition keys defaults ms ns) :
    check (some (.obj ms)) = check (some (.obj ns)) := by
  have hlevel := h.field_default_eq "level" (by decide) checkLevel fun value hvalue => by
    obtain rfl : value = .str "info" := by simpa [defaults] using hvalue
    rfl
  have hpretty := h.field_default_eq "pretty" (by decide) (checkFlag LoggingConfig.default.pretty)
    fun value hvalue => by
      obtain rfl : value = .bool false := by simpa [defaults] using hvalue
      rfl
  simp only [check, hlevel, hpretty]

end LoggingConfig

namespace ServerConfig

/-- The keys that are asked for of a configuration. -/
def keys : List String := ["listeners", "logging"]

/-- Their defaults. -/
def defaults : List (String × Json) :=
  [("listeners", .arr [.obj [("transport", .str "tcp"), ("hostname", .str "127.0.0.1"),
      ("port", .nat 8080)]]),
    ("logging", .obj [("level", .str "info"), ("pretty", .bool false)])]

/-- The default listeners are read like missing ones. -/
theorem checkList_default {value : Json} (h : ("listeners", value) ∈ defaults) :
    ListenerConfig.checkList none = ListenerConfig.checkList (some value) := by
  obtain rfl : value = .arr (defaultListeners.map ListenerConfig.toJson) := by
    rcases List.mem_cons.mp h with hfirst | hrest
    · exact (Prod.mk.inj hfirst).2
    · exact absurd (List.mem_singleton.mp hrest) (by simp)
  exact (ListenerConfig.checkList_toJson (by decide) (by decide)).symm

/-- **An addition to a configuration is not seen.** -/
theorem check_of_addition {ms ns : List (String × Json)} (h : Addition keys defaults ms ns) :
    check (.obj ms) = check (.obj ns) := by
  have hlisteners := h.field_default_eq "listeners" (by decide) ListenerConfig.checkList
    fun _ hvalue => checkList_default hvalue
  have hlogging := h.field_default_eq "logging" (by decide) LoggingConfig.check
    fun value hvalue => by
      obtain rfl : value = .obj LoggingConfig.defaults := by
        simpa [defaults, LoggingConfig.defaults] using hvalue
      rfl
  simp only [check, hlisteners, hlogging]

/-! ## Edits of a configuration -/

/-- **An edit of a configuration**: another order of members, or one more member of the whole, of
how much to log, or of a listener. -/
inductive Edit : Json → Json → Prop
  /-- the members of an object stand in another order -/
  | reordered {v w : Json} (h : Json.Reordered v w) : Edit v w
  /-- one more member of the configuration -/
  | added {ms ns : List (String × Json)} (h : Addition keys defaults ms ns) :
      Edit (.obj ms) (.obj ns)
  /-- one more member of how much to log -/
  | addedToLogging {before after ms ns : List (String × Json)}
      (h : Addition LoggingConfig.keys LoggingConfig.defaults ms ns) :
      Edit (.obj (before ++ ("logging", .obj ms) :: after))
        (.obj (before ++ ("logging", .obj ns) :: after))
  /-- one more member of a listener -/
  | addedToListener {before after ms ns : List (String × Json)} {left right : List Json}
      (h : Addition (ListenerConfig.keys (ListenerConfig.namedTransport? ms))
        (ListenerConfig.defaults (ListenerConfig.namedTransport? ms)) ms ns) :
      Edit (.obj (before ++ ("listeners", .arr (left ++ .obj ms :: right)) :: after))
        (.obj (before ++ ("listeners", .arr (left ++ .obj ns :: right)) :: after))

/-- A member of a configuration whose value is read like another may have the other one. -/
theorem check_replace {before after : List (String × Json)} {key : String} {v w : Json}
    (hlisteners : key = "listeners" →
      ListenerConfig.checkList (some v) = ListenerConfig.checkList (some w))
    (hlogging : key = "logging" → LoggingConfig.check (some v) = LoggingConfig.check (some w)) :
    check (.obj (before ++ (key, v) :: after)) = check (.obj (before ++ (key, w) :: after)) := by
  simp only [check, Checked.field_replace hlisteners, Checked.field_replace hlogging]

/-- **One edit is not seen.** -/
theorem check_of_edit {v w : Json} (h : Edit v w) : check v = check w := by
  cases h with
  | reordered h => exact h.checkServer_eq
  | added h => exact check_of_addition h
  | addedToLogging h =>
    exact check_replace (fun hkey => absurd hkey (by decide))
      fun _ => LoggingConfig.check_of_addition h
  | addedToListener h =>
    refine check_replace (fun _ => ?_) fun hkey => absurd hkey (by decide)
    exact ListenerConfig.checkList_replace (ListenerConfig.check_of_addition h) _ _

/-- **Edits in a row are not seen**, made or taken back: what is read of a value, or everything that
is reported of it, stays the same. And what was read of a value is read again of the value that
holds it.

**Proof sketch.** An edit changes the value of a key that is asked for only into one that its reader
reads in the same way: a missing value into its default, an object or a list into one with members
in another order, or the edited object itself. -/
theorem check_indifferent {v w : Json} (h : Relation.EqvGen Edit v w) :
    check v = check w ∧ ∀ c, check v = .ok c → check c.toJson = .ok c := by
  refine ⟨?_, fun c hc => check_toJson (accepted_of_check hc)⟩
  induction h with
  | rel v w h => exact check_of_edit h
  | refl v => rfl
  | symm v w _ ih => exact ih.symm
  | trans u v w _ _ ih ih' => exact ih.trans ih'

/-- A value that is refused, and the same with another order at two depths, an address written out
and a member that nobody asks for: the same faults are reported. -/
theorem check_indifferent_refused :
    let tls : List (String × Json) := [("port", .nat 80), ("transport", .str "tls")]
    let full : List (String × Json) :=
      [("transport", .str "tls"), ("hostname", .str "0.0.0.0"), ("port", .nat 80)]
    let logging : String × Json := ("logging", .obj [("level", .str "warn")])
    let v : Json := .obj [logging, ("listeners", .arr [.obj tls])]
    let w : Json := .obj [("listeners", .arr [.obj full]), ("owner", .null), logging]
    Relation.EqvGen Edit v w ∧ check v = check w ∧ (check v).issues.length = 2 := by
  intro tls full logging v w
  let sorted : List (String × Json) := [("transport", .str "tls"), ("port", .nat 80)]
  have horder : Json.Reordered v (.obj [("listeners", .arr [.obj tls]), logging]) :=
    .of_perm (List.Perm.swap _ _ _) (by decide)
  have hinside : Json.Reordered (.obj tls) (.obj sorted) :=
    .of_perm (List.Perm.swap _ _ _) (by decide)
  have hlistener : Json.Reordered (.obj [("listeners", .arr [.obj tls]), logging])
      (.obj [("listeners", .arr [.obj sorted]), logging]) :=
    @Json.Reordered.inMember [] [logging] "listeners" _ _ (@Json.Reordered.inItem [] [] _ _ hinside)
  have haddress : Addition (ListenerConfig.keys (ListenerConfig.namedTransport? sorted))
      (ListenerConfig.defaults (ListenerConfig.namedTransport? sorted)) sorted full :=
    @Addition.default _ _ [("transport", .str "tls")] [("port", .nat 80)] "hostname"
      (.str "0.0.0.0") (List.mem_singleton.mpr rfl) rfl
  have hunknown : Addition keys defaults [("listeners", .arr [.obj full]), logging]
      [("listeners", .arr [.obj full]), ("owner", .null), logging] :=
    @Addition.unknown _ _ [("listeners", .arr [.obj full])] [logging] "owner" .null (by decide)
  have hedits : Relation.EqvGen Edit v w :=
    .trans _ _ _ (.rel _ _ (.reordered horder)) <|
      .trans _ _ _ (.rel _ _ (.reordered hlistener)) <|
        .trans _ _ _ (.rel _ _ (@Edit.addedToListener [] [logging] sorted full [] [] haddress))
          (.rel _ _ (.added hunknown))
  exact ⟨hedits, (check_indifferent hedits).1, by decide +kernel⟩

end ServerConfig

end TargetUri
