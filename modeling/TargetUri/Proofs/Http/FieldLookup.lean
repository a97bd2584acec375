import Mathlib.Algebra.Group.Nat.Even
import Mathlib.Data.Nat.Find
import Mathlib.Logic.Relation
import TargetUri.Proofs.Http.RequestAuthority

set_option autoImplicit false

/-!
# Look-up of header fields

In a flat list of header fields names stand at the even places and each value behind its name. A
look-up answers with the value of the first field of a name, and names and values are never mixed
up: no value is taken for a name, a last name without a value counts for nothing, and fields of
other names do not matter, wherever they stand.

## Main definitions

* `TargetUri.IsFieldAt`, `TargetUri.IsFirstFieldAt` — where a field of a name stands, and where the
  first one does.
* `TargetUri.SameNames` — lists that have the same names at the same places.
* `TargetUri.OtherField` — a field of another name is dropped, or changes places with the next one.

## Main results

* `TargetUri.rawHeader_eq_some_iff`, `TargetUri.rawHeader_eq_none_iff` — which value is found, and
  when there is none.
* `TargetUri.rawHeader_append` — look-up in a list put together from two.
* `TargetUri.HeaderLookup.ofRaw_exact` — what a look-up answers, and what it does not depend on.
-/

namespace TargetUri

/-! ## Places -/

/-- **A field of a name** in a flat list: the name stands at an even place, in whatever case, and
the value right behind it. -/
structure IsFieldAt (name : String) (raw : List String) (i : Nat) (value : String) : Prop where
  /-- names stand at even places -/
  even : Even i
  /-- the name stands there -/
  named : raw[i]?.map Text.lower = some (Text.lower name)
  /-- the value stands behind it -/
  value : raw[i + 1]? = some value

/-- **The first field of a name** in a flat list. -/
structure IsFirstFieldAt (name : String) (raw : List String) (i : Nat) (value : String) : Prop
    extends IsFieldAt name raw i value where
  /-- there is none at a smaller place -/
  first : ∀ j < i, ∀ other, ¬IsFieldAt name raw j other

variable {name n v value : String} {raw rest : List String} {i : Nat}

/-- Two places further on it is again a name that stands. -/
theorem even_add_two_iff : Even (i + 2) ↔ Even i :=
  Nat.even_add.trans (iff_true_right (by decide))

/-- The field at the head of a list. -/
theorem isFieldAt_zero :
    IsFieldAt name (n :: v :: rest) 0 value ↔ Text.lower n = Text.lower name ∧ v = value := by
  constructor
  · rintro ⟨-, hname, hvalue⟩
    exact ⟨Option.some.inj hname, Option.some.inj hvalue⟩
  · rintro ⟨hname, rfl⟩
    exact ⟨Even.zero, congrArg some hname, rfl⟩

/-- A field behind the head of a list. -/
theorem isFieldAt_add_two :
    IsFieldAt name (n :: v :: rest) (i + 2) value ↔ IsFieldAt name rest i value := by
  constructor
  · rintro ⟨hi, hname, hvalue⟩
    exact ⟨even_add_two_iff.mp hi, hname, hvalue⟩
  · rintro ⟨hi, hname, hvalue⟩
    exact ⟨even_add_two_iff.mpr hi, hname, hvalue⟩

/-- The first field stands at the head of a list that begins with one. -/
theorem isFirstFieldAt_cons_iff (h : Text.lower n = Text.lower name) :
    IsFirstFieldAt name (n :: v :: rest) i value ↔ i = 0 ∧ v = value := by
  have hhead : IsFieldAt name (n :: v :: rest) 0 v := isFieldAt_zero.mpr ⟨h, rfl⟩
  constructor
  · intro hi
    obtain rfl : i = 0 := by
      by_contra hne
      exact hi.first 0 (Nat.pos_of_ne_zero hne) v hhead
    exact ⟨rfl, (isFieldAt_zero.mp hi.toIsFieldAt).2⟩
  · rintro ⟨rfl, rfl⟩
    exact ⟨hhead, fun j hj => absurd hj (Nat.not_lt_zero j)⟩

/-- The first field stands behind the head of a list that begins with a field of another name. -/
theorem isFirstFieldAt_cons_of_ne (h : Text.lower n ≠ Text.lower name) :
    IsFirstFieldAt name (n :: v :: rest) i value ↔
      ∃ j, i = j + 2 ∧ IsFirstFieldAt name rest j value := by
  constructor
  · rintro ⟨hi, hfirst⟩
    match i with
    | 0 => exact absurd (isFieldAt_zero.mp hi).1 h
    | 1 => exact absurd hi.even (by decide)
    | j + 2 =>
      refine ⟨j, rfl, isFieldAt_add_two.mp hi, fun k hk other hother => ?_⟩
      exact hfirst (k + 2) (Nat.add_lt_add_right hk 2) other (isFieldAt_add_two.mpr hother)
  · rintro ⟨j, rfl, hj, hfirst⟩
    refine ⟨isFieldAt_add_two.mpr hj, fun k hk other hother => ?_⟩
    match k with
    | 0 => exact h (isFieldAt_zero.mp hother).1
    | 1 => exact absurd hother.even (by decide)
    | k + 2 => exact hfirst k (Nat.lt_of_add_lt_add_right hk) other (isFieldAt_add_two.mp hother)

/-- There is no field in a list of fewer than two entries. -/
theorem not_isFieldAt_of_short (h : ∀ n v rest, raw = n :: v :: rest → False) :
    ¬IsFieldAt name raw i value := by
  rintro ⟨-, -, hvalue⟩
  match raw with
  | [] => cases hvalue
  | [_] => cases hvalue
  | n :: v :: rest => exact h n v rest rfl

/-! ## What is found -/

/-- **Look-up finds the value of the first field of a name.** -/
theorem rawHeader_eq_some_iff :
    rawHeader name raw = some value ↔ ∃ i, IsFirstFieldAt name raw i value := by
  fun_induction rawHeader name raw with
  | case1 n v rest h => simp [isFirstFieldAt_cons_iff h]
  | case2 n v rest h ih => simp [isFirstFieldAt_cons_of_ne h, ih]
  | case3 raw h =>
    have hnone : ∀ i, ¬IsFirstFieldAt name raw i value :=
      fun i hi => not_isFieldAt_of_short h hi.toIsFieldAt
    simp [hnone]

/-- Of the fields of a name there is a first one. -/
theorem IsFieldAt.exists_first (h : IsFieldAt name raw i value) :
    ∃ j first, IsFirstFieldAt name raw j first := by
  classical
  have hexists : ∃ j, ∃ first, IsFieldAt name raw j first := ⟨i, value, h⟩
  obtain ⟨first, hfirst⟩ := Nat.find_spec hexists
  exact ⟨Nat.find hexists, first, hfirst,
    fun j hj other hother => Nat.find_min hexists hj ⟨other, hother⟩⟩

/-- **Look-up finds nothing just when there is no field of the name.** -/
theorem rawHeader_eq_none_iff :
    rawHeader name raw = none ↔ ∀ i value, ¬IsFieldAt name raw i value := by
  constructor
  · intro hnone i value hi
    obtain ⟨j, first, hfirst⟩ := hi.exists_first
    rw [rawHeader_eq_some_iff.mpr ⟨j, hfirst⟩] at hnone
    exact absurd hnone (Option.some_ne_none first)
  · intro hno
    rw [Option.eq_none_iff_forall_ne_some]
    intro value hvalue
    obtain ⟨i, hi⟩ := rawHeader_eq_some_iff.mp hvalue
    exact hno i value hi.toIsFieldAt

/-! ## Lists put together -/

/-- **Look-up in a list put together from two**: what the first has comes first, if no name of it is
left without a value. -/
theorem rawHeader_append (name : String) (heven : Even raw.length) (more : List String) :
    rawHeader name (raw ++ more) = (rawHeader name raw).or (rawHeader name more) := by
  fun_induction rawHeader name raw with
  | case1 n v rest h => simp [rawHeader, h]
  | case2 n v rest h ih =>
    rw [List.cons_append, List.cons_append, rawHeader, if_neg h, ih (even_add_two_iff.mp heven)]
  | case3 raw h =>
    match raw with
    | [] => simp
    | [_] => exact absurd heven Nat.not_even_one
    | n :: v :: rest => exact (h n v rest rfl).elim

/-- In two lists that begin alike the same is found if that is so in their ends. -/
theorem rawHeader_append_congr {rest' : List String} (heven : Even raw.length)
    (h : rawHeader name rest = rawHeader name rest') :
    rawHeader name (raw ++ rest) = rawHeader name (raw ++ rest') := by
  rw [rawHeader_append name heven, rawHeader_append name heven, h]

/-- A value that is found is still found when anything is put behind the list, also when a last name
of it had no value. -/
theorem rawHeader_append_of_some (h : rawHeader name raw = some value) (more : List String) :
    rawHeader name (raw ++ more) = some value := by
  fun_induction rawHeader name raw with
  | case1 n v rest hname => simpa [rawHeader, hname] using h
  | case2 n v rest hname ih =>
    rw [List.cons_append, List.cons_append, rawHeader, if_neg hname, ih h]
  | case3 raw hshort => cases h

/-- A last name without a value counts for nothing. -/
theorem rawHeader_append_singleton (heven : Even raw.length) (name last : String) :
    rawHeader name (raw ++ [last]) = rawHeader name raw := by
  have hlast : rawHeader name [last] = none := rfl
  rw [rawHeader_append name heven, hlast, Option.or_none]

/-! ## What does not matter -/

/-- Two lists that have the same names at the same places, in whatever case, and any values. -/
structure SameNames (raw raw' : List String) : Prop where
  /-- they are equally long -/
  length : raw'.length = raw.length
  /-- what stands at an even place is the same but for case -/
  names : ∀ i : Nat, Even i → raw'[i]?.map Text.lower = raw[i]?.map Text.lower

/-- Lists with the same names have their fields at the same places. -/
theorem SameNames.isFieldAt {raw' : List String} (h : SameNames raw raw')
    (hi : IsFieldAt name raw i value) : ∃ value', IsFieldAt name raw' i value' := by
  have hlt : i + 1 < raw'.length := by
    rw [h.length]
    exact (List.getElem?_eq_some_iff.mp hi.value).1
  have hvalue : raw'[i + 1]? = some raw'[i + 1] := List.getElem?_eq_getElem hlt
  exact ⟨raw'[i + 1], hi.even, (h.names i hi.even).trans hi.named, hvalue⟩

/-- Having the same names goes both ways. -/
theorem SameNames.symm {raw' : List String} (h : SameNames raw raw') : SameNames raw' raw where
  length := h.length.symm
  names := fun i hi => (h.names i hi).symm

/-- **Values do not matter**: in a list with the same names the value is found at the same place. -/
theorem SameNames.rawHeader_eq {raw' : List String} (h : SameNames raw raw')
    (hi : IsFirstFieldAt name raw i value) : rawHeader name raw' = raw'[i + 1]? := by
  obtain ⟨value', hvalue'⟩ := h.isFieldAt hi.toIsFieldAt
  have hfirst : IsFirstFieldAt name raw' i value' := by
    refine ⟨hvalue', fun j hj other hother => ?_⟩
    obtain ⟨other', hother'⟩ := h.symm.isFieldAt hother
    exact hi.first j hj other' hother'
  rw [hvalue'.value, rawHeader_eq_some_iff]
  exact ⟨i, hfirst⟩

/-- In a list with the same names nothing is found just when nothing was. -/
theorem SameNames.rawHeader_eq_none_iff {raw' : List String} (h : SameNames raw raw') :
    rawHeader name raw' = none ↔ rawHeader name raw = none := by
  rw [TargetUri.rawHeader_eq_none_iff, TargetUri.rawHeader_eq_none_iff]
  constructor
  · intro hno i value hi
    obtain ⟨value', hi'⟩ := h.isFieldAt hi
    exact hno i value' hi'
  · intro hno i value hi
    obtain ⟨value', hi'⟩ := h.symm.isFieldAt hi
    exact hno i value' hi'

/-- The case of a name does not matter. -/
theorem rawHeader_congr {name' : String} (h : Text.lower name' = Text.lower name)
    (raw : List String) : rawHeader name' raw = rawHeader name raw := by
  rw [rawHeader_eq_head?, rawHeader_eq_head?, fieldValues, fieldValues, h]

/-- A change that has to do with a field of another name only: it is dropped, or it changes places
with the field behind it. -/
inductive OtherField (name : String) : List String → List String → Prop
  /-- a field of another name is dropped -/
  | dropped {before after : List String} {n v : String} (heven : Even before.length)
      (hne : Text.lower n ≠ Text.lower name) :
      OtherField name (before ++ n :: v :: after) (before ++ after)
  /-- a field of another name changes places with the next -/
  | moved {before after : List String} {n v n' v' : String} (heven : Even before.length)
      (hne : Text.lower n ≠ Text.lower name) :
      OtherField name (before ++ n :: v :: n' :: v' :: after)
        (before ++ n' :: v' :: n :: v :: after)

/-- A field of another name is passed over. -/
theorem rawHeader_cons_of_ne (h : Text.lower n ≠ Text.lower name) :
    rawHeader name (n :: v :: rest) = rawHeader name rest := by
  rw [rawHeader, if_neg h]

/-- **Fields of other names do not matter.** -/
theorem OtherField.rawHeader_eq {raw' : List String} (h : OtherField name raw raw') :
    rawHeader name raw = rawHeader name raw' := by
  cases h with
  | dropped heven hne =>
    exact rawHeader_append_congr heven (rawHeader_cons_of_ne hne)
  | moved heven hne =>
    refine rawHeader_append_congr heven ?_
    simp only [rawHeader, if_neg hne]

/-- Fields of other names may be dropped, put in, and moved about. -/
theorem rawHeader_of_eqvGen {raw' : List String} (h : Relation.EqvGen (OtherField name) raw raw') :
    rawHeader name raw = rawHeader name raw' := by
  induction h with
  | rel raw raw' h => exact h.rawHeader_eq
  | refl raw => rfl
  | symm raw raw' h ih => exact ih.symm
  | trans raw raw' raw'' h h' ih ih' => exact ih.trans ih'

namespace HeaderLookup

/-- **What a look-up in a flat list of fields answers.** It answers with a value just when that is
the value of the first field of the name, and with nothing just when there is no such field. So the
answer stands at the same place whatever the values are, and in whatever case the names; a last name
without a value counts for nothing; the case of the name that is looked up does not matter; an
answer stays when fields are put behind the list; and fields of other names may be dropped, put in,
and moved about.

**Proof sketch.** Look-up reads two entries at a time, and the places of the fields behind the head
of a list are those in its rest, two further on. -/
theorem ofRaw_exact (raw : List String) (name : String) :
    (∀ value, ofRaw raw name = some (.text value) ↔ ∃ i, IsFirstFieldAt name raw i value) ∧
    (ofRaw raw name = none ↔ ∀ i value, ¬IsFieldAt name raw i value) ∧
    (∀ raw', SameNames raw raw' →
      (ofRaw raw' name = none ↔ ofRaw raw name = none) ∧
      ∀ i value, IsFirstFieldAt name raw i value → ofRaw raw' name = raw'[i + 1]?.map .text) ∧
    (∀ last, Even raw.length → ofRaw (raw ++ [last]) name = ofRaw raw name) ∧
    (∀ name', Text.lower name' = Text.lower name → ofRaw raw name' = ofRaw raw name) ∧
    (∀ more answer, ofRaw raw name = some answer → ofRaw (raw ++ more) name = some answer) ∧
    ∀ raw', Relation.EqvGen (OtherField name) raw raw' → ofRaw raw' name = ofRaw raw name := by
  refine ⟨fun value => ?found, ?absent, fun raw' h => ⟨?sameAbsent, fun i value hi => ?samePlace⟩,
    fun last heven => ?unpaired, fun name' h => ?cased, fun more answer h => ?appended,
    fun raw' h => ?others⟩
  case found =>
    rw [← rawHeader_eq_some_iff]
    simp [ofRaw]
  case absent => rw [ofRaw, Option.map_eq_none_iff, rawHeader_eq_none_iff]
  case sameAbsent =>
    rw [ofRaw, ofRaw, Option.map_eq_none_iff, Option.map_eq_none_iff, h.rawHeader_eq_none_iff]
  case samePlace => rw [ofRaw, h.rawHeader_eq hi]
  case unpaired => rw [ofRaw, ofRaw, rawHeader_append_singleton heven]
  case cased => rw [ofRaw, ofRaw, rawHeader_congr h]
  case appended =>
    obtain ⟨value, hvalue, rfl⟩ := Option.map_eq_some_iff.mp h
    rw [ofRaw, rawHeader_append_of_some hvalue, Option.map_some]
  case others => rw [ofRaw, ofRaw, rawHeader_of_eqvGen h]

/-- A name that stands as the value of another field is not found, and the first value counts. -/
example :
    ofRaw ["X-First", "Host", "HOST", "a", "host", "b", "Host"] "Host" = some (.text "a") := by
  decide +kernel

end HeaderLookup

end TargetUri
