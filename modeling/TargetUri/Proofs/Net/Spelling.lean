import Mathlib.Data.Nat.Digits.Lemmas
import TargetUri.Proofs.Net.Literal

set_option autoImplicit false

/-!
# The spellings of an IP address

An IPv4 address has one spelling: its octets in decimals, without a leading zero, between points. An
IPv6 address has many. Its eight groups stand between colons, each in one to four hexadecimal digits
of either case; one run of groups that are zero may be elided, the last two groups may be written as
a dotted quad, and the name of a zone may follow. Just these texts are read as literals, and each of
them as the address that it spells.

## Main definitions

* `TargetUri.Ip.Quad` — the octets of an IPv4 address; its spelling and its value.
* `TargetUri.Ip.IsGroup`, `TargetUri.Ip.IsLastField` — the spellings of a group, and of what stands
  last.
* `TargetUri.Ip.AreGroups`, `TargetUri.Ip.EndInGroups`, `TargetUri.Ip.IsAddress` — the spellings of
  groups in a row, and of all eight.
* `TargetUri.Ip.SpellsV6` — the spellings of an IPv6 address.

## Main results

* `TargetUri.Ip.v4?_eq_some_iff` — which texts are read as an IPv4 literal, and as which.
* `TargetUri.Ip.v6?_eq_some_iff` — the same for IPv6 literals.
* `TargetUri.Ip.SpellsV6.value_lt` — the value of an IPv6 address has 128 bits.
-/

namespace TargetUri

namespace Ip

/-! ## Dotted quads -/

/-- The octets of an IPv4 address. -/
structure Quad where
  /-- the first octet -/
  a : Fin 256
  /-- the second octet -/
  b : Fin 256
  /-- the third octet -/
  c : Fin 256
  /-- the fourth octet -/
  d : Fin 256
deriving DecidableEq, Repr

/-- The spelling of an IPv4 address: its octets in decimals between points. -/
def Quad.text (q : Quad) : List Char :=
  ['.'].intercalate
    [Nat.toDigits 10 q.a, Nat.toDigits 10 q.b, Nat.toDigits 10 q.c, Nat.toDigits 10 q.d]

/-- The 32-bit value of an IPv4 address. -/
def Quad.value (q : Quad) : Nat := ((q.a * 256 + q.b) * 256 + q.c) * 256 + q.d

/-- The two groups of an IPv6 address that a dotted quad stands for. -/
def Quad.groups (q : Quad) : List Nat := [q.a * 256 + q.b, q.c * 256 + q.d]

/-- The characters of a dotted quad are digits and points. -/
theorem Quad.isDigit_or_eq {q : Quad} {c : Char} (h : c ∈ q.text) : c.isDigit ∨ c = '.' := by
  rcases eq_or_mem_of_mem_intercalate h with rfl | ⟨field, hfield, hc⟩
  · exact Or.inr rfl
  · have hdigits : ∀ n : Nat, c ∈ Nat.toDigits 10 n → c.isDigit := fun n hn =>
      Nat.isDigit_of_mem_toDigits (by decide) (by decide) hn
    simp only [List.mem_cons, List.not_mem_nil, or_false] at hfield
    rcases hfield with rfl | rfl | rfl | rfl <;> exact Or.inl (hdigits _ hc)

/-- There is a point in a dotted quad. -/
theorem Quad.point_mem (q : Quad) : '.' ∈ q.text := by
  rw [text, List.intercalate_cons_cons]
  simp

/-- A digit is the one of its value. -/
theorem digitChar_of_isDigit {c : Char} (h : c.isDigit) : Nat.digitChar (c.toNat - 48) = c := by
  obtain ⟨hlow, hhigh⟩ := Char.isDigit_iff_toNat.mp h
  change 48 ≤ c.toNat at hlow
  change c.toNat ≤ 57 at hhigh
  apply Char.toNat_inj.mp
  rw [Nat.toNat_digitChar_of_lt_ten (by omega)]
  omega

/-- Digits without a leading zero are those of their value.

**Proof sketch.** Induction from the last digit: the digits before it are those of a number that is
not zero, or there are none. -/
theorem toDigits_ofDigitChars {cs : List Char} (hne : cs ≠ []) (hdigits : ∀ c ∈ cs, c.isDigit)
    (hzero : cs.head? = some '0' → cs.length = 1) :
    Nat.toDigits 10 (Nat.ofDigitChars 10 cs 0) = cs := by
  induction cs using List.reverseRecOn with
  | nil => exact absurd rfl hne
  | append_singleton ds c ih =>
    have hc : c.isDigit := hdigits c (by simp)
    obtain ⟨hlow, hhigh⟩ := Char.isDigit_iff_toNat.mp hc
    change 48 ≤ c.toNat at hlow
    change c.toNat ≤ 57 at hhigh
    have hlast : Nat.toDigits 10 (c.toNat - 48) = [c] := by
      rw [Nat.toDigits_of_lt_base (by omega), digitChar_of_isDigit hc]
    have hvalue : Nat.ofDigitChars 10 (ds ++ [c]) 0 =
        10 * Nat.ofDigitChars 10 ds 0 + (c.toNat - 48) := by
      rw [Nat.ofDigitChars_append, Nat.ofDigitChars_cons, Nat.ofDigitChars_nil]
      rfl
    rw [hvalue]
    by_cases hds : ds = []
    · rw [hds, Nat.ofDigitChars_nil, Nat.mul_zero, Nat.zero_add, hlast, List.nil_append]
    · have hhead : ds.head? ≠ some '0' := by
        intro h
        have hone := hzero (by rw [List.head?_append_of_ne_nil _ hds, h])
        simp [hds] at hone
      have hfront := ih hds (fun c hc => hdigits c (List.mem_append_left _ hc))
        fun h => absurd h hhead
      have hpos : 0 < Nat.ofDigitChars 10 ds 0 := by
        refine Nat.pos_of_ne_zero fun h => hhead ?_
        rw [← hfront, h]
        rfl
      rw [← Nat.toDigits_append_toDigits (by decide) hpos (by omega), hfront, hlast]

/-- **An octet** is read from just the decimals of a number below 256. -/
theorem octet?_eq_some_iff {cs : List Char} {v : Nat} :
    octet? cs = some v ↔ v < 256 ∧ cs = Nat.toDigits 10 v := by
  constructor
  · intro h
    rw [octet?] at h
    obtain ⟨⟨hne, -, hall, hzero, hle⟩, h⟩ := Option.ite_none_right_eq_some.mp h
    obtain rfl := Option.some.inj h
    exact ⟨by omega, (toDigits_ofDigitChars hne (List.all_eq_true.mp hall) hzero).symm⟩
  · rintro ⟨hv, rfl⟩
    have hall : ∀ n : Fin 256, octet? (Nat.toDigits 10 n) = some n.val := by decide +kernel
    exact hall ⟨v, hv⟩

/-- **A dotted quad** is read from just the spelling of an IPv4 address, as its value. -/
theorem v4?_eq_some_iff {cs : List Char} {v : Nat} :
    v4? cs = some v ↔ ∃ q : Quad, cs = q.text ∧ q.value = v := by
  constructor
  · intro h
    rw [v4?] at h
    split at h
    · next a b c d hfields =>
      have hread := mapM_eq_some_iff_forall₂.mp hfields
      obtain ⟨f₁, fs₁, h₁, hfs₁, hsplit⟩ := List.forall₂_cons_right_iff.mp hread
      obtain ⟨f₂, fs₂, h₂, hfs₂, rfl⟩ := List.forall₂_cons_right_iff.mp hfs₁
      obtain ⟨f₃, fs₃, h₃, hfs₃, rfl⟩ := List.forall₂_cons_right_iff.mp hfs₂
      obtain ⟨f₄, fs₄, h₄, hfs₄, rfl⟩ := List.forall₂_cons_right_iff.mp hfs₃
      obtain rfl := List.forall₂_nil_right_iff.mp hfs₄
      obtain ⟨ha, rfl⟩ := octet?_eq_some_iff.mp h₁
      obtain ⟨hb, rfl⟩ := octet?_eq_some_iff.mp h₂
      obtain ⟨hc, rfl⟩ := octet?_eq_some_iff.mp h₃
      obtain ⟨hd, rfl⟩ := octet?_eq_some_iff.mp h₄
      refine ⟨⟨⟨a, ha⟩, ⟨b, hb⟩, ⟨c, hc⟩, ⟨d, hd⟩⟩, ?_, Option.some.inj h⟩
      rw [Quad.text, ← hsplit, List.intercalate_splitOn]
    · exact absurd h (by simp)
  · rintro ⟨q, rfl, rfl⟩
    have hpoint : ∀ n : Nat, '.' ∉ Nat.toDigits 10 n := fun n hn =>
      absurd (Nat.isDigit_of_mem_toDigits (by decide) (by decide) hn) (by decide)
    have hsplit : q.text.splitOn '.' = [Nat.toDigits 10 q.a, Nat.toDigits 10 q.b,
        Nat.toDigits 10 q.c, Nat.toDigits 10 q.d] := by
      refine List.splitOn_intercalate '.' (fun field hfield => ?_) (by simp)
      simp only [List.mem_cons, List.not_mem_nil, or_false] at hfield
      rcases hfield with rfl | rfl | rfl | rfl <;> exact hpoint _
    have hread : ∀ n : Fin 256, octet? (Nat.toDigits 10 n) = some n.val := fun n =>
      octet?_eq_some_iff.mpr ⟨n.isLt, rfl⟩
    rw [v4?, hsplit]
    simp [hread, Quad.value]

/-- Any other text is no IPv4 literal. -/
theorem v4?_eq_none_iff {cs : List Char} : v4? cs = none ↔ ∀ q : Quad, cs ≠ q.text := by
  rw [Option.eq_none_iff_forall_ne_some]
  constructor
  · intro h q hq
    exact h q.value (v4?_eq_some_iff.mpr ⟨q, hq, rfl⟩)
  · intro h v hv
    obtain ⟨q, hq, -⟩ := v4?_eq_some_iff.mp hv
    exact h q hq

/-! ## Groups -/

/-- **The spelling of a group**: one to four hexadecimal digits of either case, of which the first
counts most. -/
inductive IsGroup : List Char → Nat → Prop
  /-- the digits of a group -/
  | digits {cs : List Char} {ds : List Nat} : cs ≠ [] → cs.length ≤ 4 →
    List.Forall₂ (fun c d => Hex.value? c = some d) cs ds → IsGroup cs (Nat.ofDigits 16 ds.reverse)

/-- The spelling of what stands last: a group, or a dotted quad in place of two. -/
inductive IsLastField : List Char → List Nat → Prop
  /-- a group -/
  | group {cs : List Char} {g : Nat} : IsGroup cs g → IsLastField cs [g]
  /-- a dotted quad -/
  | quad (q : Quad) : IsLastField q.text q.groups

/-- The spelling of groups in a row, with colons between them. -/
def AreGroups (cs : List Char) (gs : List Nat) : Prop :=
  ∃ fields, List.Forall₂ IsGroup fields gs ∧ cs = [':'].intercalate fields

/-- The spelling of groups in a row that end an address, of which the last two may be written as a
dotted quad. -/
inductive EndInGroups : List Char → List Nat → Prop
  /-- no group -/
  | nil : EndInGroups [] []
  /-- groups, the last of them or a dotted quad -/
  | fields {fields : List (List Char)} {gs : List Nat} {last : List Char} {hs : List Nat} :
    List.Forall₂ IsGroup fields gs → IsLastField last hs →
    EndInGroups ([':'].intercalate (fields ++ [last])) (gs ++ hs)

/-- **The spelling of the eight groups of an address**: all of them, or those around a run of
groups that are zero, which two colons stand for. -/
inductive IsAddress : List Char → List Nat → Prop
  /-- all groups -/
  | full {cs : List Char} {gs : List Nat} : EndInGroups cs gs → gs.length = 8 → IsAddress cs gs
  /-- the groups around an elision -/
  | elided {before after : List Char} {gs hs : List Nat} : AreGroups before gs →
    EndInGroups after hs → gs.length + hs.length ≤ 7 →
    IsAddress (before ++ ':' :: ':' :: after)
      (gs ++ List.replicate (8 - gs.length - hs.length) 0 ++ hs)

/-- The spelling of a zone: a percent sign and a name, or nothing. -/
inductive IsZonePart : List Char → Prop
  /-- no zone -/
  | none : IsZonePart []
  /-- the name of a zone -/
  | name {zone : List Char} : zone ≠ [] → (∀ c ∈ zone, isZoneChar c) → IsZonePart ('%' :: zone)

/-- **The spelling of an IPv6 address**: its groups and a zone, which is no part of its value. -/
inductive SpellsV6 : List Char → Nat → Prop
  /-- the groups and the zone of an address -/
  | literal {address zone : List Char} {gs : List Nat} : IsAddress address gs → IsZonePart zone →
    SpellsV6 (address ++ zone) (Nat.ofDigits 0x10000 gs.reverse)

/-! ### Characters -/

/-- What stands between colons is not empty, and holds neither a colon nor a percent sign. -/
structure IsField (cs : List Char) : Prop where
  /-- there is a character -/
  ne_nil : cs ≠ []
  /-- it is no colon -/
  no_colon : ':' ∉ cs
  /-- it is no percent sign -/
  no_percent : '%' ∉ cs

/-- The characters of a group are hexadecimal digits. -/
theorem IsGroup.exists_value? {cs : List Char} {g : Nat} (h : IsGroup cs g) {c : Char}
    (hc : c ∈ cs) : ∃ d, Hex.value? c = some d := by
  cases h with
  | digits _ _ hds =>
    obtain ⟨d, -, hd⟩ := exists_of_forall₂ hds hc
    exact ⟨d, hd⟩

/-- A character that is no hexadecimal digit does not stand in a group. -/
theorem IsGroup.not_mem {cs : List Char} {g : Nat} (h : IsGroup cs g) {c : Char}
    (hc : Hex.value? c = none) : c ∉ cs := by
  intro hm
  obtain ⟨d, hd⟩ := h.exists_value? hm
  rw [hc] at hd
  exact absurd hd (by simp)

/-- A group stands between colons. -/
theorem IsGroup.isField {cs : List Char} {g : Nat} (h : IsGroup cs g) : IsField cs where
  ne_nil := by cases h; assumption
  no_colon := h.not_mem (by decide)
  no_percent := h.not_mem (by decide)

/-- A dotted quad stands between colons. -/
theorem Quad.isField (q : Quad) : IsField q.text where
  ne_nil := List.ne_nil_of_mem q.point_mem
  no_colon h := absurd (q.isDigit_or_eq h) (by decide)
  no_percent h := absurd (q.isDigit_or_eq h) (by decide)

/-- What stands last stands behind a colon. -/
theorem IsLastField.isField {cs : List Char} {gs : List Nat} (h : IsLastField cs gs) :
    IsField cs := by
  cases h with
  | group h => exact h.isField
  | quad q => exact q.isField

/-- Groups stand between colons. -/
theorem isField_of_forall₂ {fields : List (List Char)} {gs : List Nat}
    (h : List.Forall₂ IsGroup fields gs) : ∀ field ∈ fields, IsField field := by
  intro field hfield
  obtain ⟨g, -, hg⟩ := exists_of_forall₂ h hfield
  exact hg.isField

/-- Groups and what stands last stand between colons. -/
theorem isField_of_mem_concat {fields : List (List Char)} {gs hs : List Nat} {last : List Char}
    (h : List.Forall₂ IsGroup fields gs) (hlast : IsLastField last hs) :
    ∀ field ∈ fields ++ [last], IsField field :=
  List.forall_mem_append.mpr ⟨isField_of_forall₂ h, by simpa using hlast.isField⟩

/-- There is no percent sign in joined fields. -/
theorem percent_not_mem_intercalate {fields : List (List Char)}
    (h : ∀ field ∈ fields, IsField field) : '%' ∉ [':'].intercalate fields := by
  intro hm
  rcases eq_or_mem_of_mem_intercalate hm with hc | ⟨field, hfield, hc⟩
  · exact absurd hc (by decide)
  · exact (h field hfield).no_percent hc

/-- There is no percent sign in groups that end an address. -/
theorem EndInGroups.percent_not_mem {cs : List Char} {gs : List Nat} (h : EndInGroups cs gs) :
    '%' ∉ cs := by
  cases h with
  | nil => exact List.not_mem_nil
  | fields hfields hlast =>
    exact percent_not_mem_intercalate (isField_of_mem_concat hfields hlast)

/-- There is no percent sign in an address. -/
theorem IsAddress.percent_not_mem {cs : List Char} {gs : List Nat} (h : IsAddress cs gs) :
    '%' ∉ cs := by
  cases h with
  | full h _ => exact h.percent_not_mem
  | elided hbefore hafter _ =>
    obtain ⟨fields, hfields, rfl⟩ := hbefore
    have hfront := percent_not_mem_intercalate (isField_of_forall₂ hfields)
    simp [hfront, hafter.percent_not_mem]

/-- What stands last is at most two groups. -/
theorem IsLastField.length_le {cs : List Char} {gs : List Nat} (h : IsLastField cs gs) :
    gs.length ≤ 2 := by
  cases h <;> simp [Quad.groups]

/-- There is a colon in an address. -/
theorem IsAddress.colon_mem {cs : List Char} {gs : List Nat} (h : IsAddress cs gs) : ':' ∈ cs := by
  cases h with
  | full h hlength =>
    cases h with
    | nil => exact absurd hlength (by decide)
    | @fields fields gs last hs hfields hlast =>
      -- at most two of the eight groups are in the last field
      have hne : fields ≠ [] := by
        rintro rfl
        rw [List.forall₂_nil_left_iff.mp hfields, List.nil_append] at hlength
        have hle := hlast.length_le
        omega
      rw [intercalate_concat hne]
      simp
  | elided _ _ _ => simp

/-! ### Reading groups -/

/-- Digits from the first to the last have the value of the digits from the last to the first. -/
theorem ofDigits_eq (base : Nat) (ds : List Nat) :
    ofDigits base ds = Nat.ofDigits base ds.reverse := by
  rw [ofDigits, Nat.ofDigits_eq_foldr, List.foldr_reverse]
  congr 1
  funext v d
  rw [Nat.cast_id, Nat.mul_comm, Nat.add_comm]

/-- **A group** is read from just its spellings. -/
theorem group?_eq_some_iff {cs : List Char} {g : Nat} : group? cs = some g ↔ IsGroup cs g := by
  constructor
  · intro h
    rw [group?] at h
    obtain ⟨⟨hne, hlength⟩, h⟩ := Option.ite_none_right_eq_some.mp h
    obtain ⟨ds, hds, rfl⟩ := Option.map_eq_some_iff.mp h
    rw [ofDigits_eq]
    exact .digits hne hlength (mapM_eq_some_iff_forall₂.mp hds)
  · rintro ⟨hne, hlength, hds⟩
    rw [group?, if_pos ⟨hne, hlength⟩, mapM_eq_some_iff_forall₂.mpr hds, Option.map_some,
      ofDigits_eq]

/-- Groups in a row are read from just their spellings. -/
theorem mapM_group?_eq_some_iff {fields : List (List Char)} {gs : List Nat} :
    fields.mapM group? = some gs ↔ List.Forall₂ IsGroup fields gs := by
  simp only [mapM_eq_some_iff_forall₂, group?_eq_some_iff]

/-- A dotted quad is the value of two groups. -/
theorem Quad.groups_eq (q : Quad) : [q.value / 0x10000, q.value % 0x10000] = q.groups := by
  have hc := q.c.isLt
  have hd := q.d.isLt
  simp only [value, groups, List.cons.injEq, and_true]
  constructor <;> omega

/-- **What stands last** is read from just its spellings. -/
theorem lastGroups?_eq_some_iff {cs : List Char} {gs : List Nat} :
    lastGroups? cs = some gs ↔ IsLastField cs gs := by
  rw [lastGroups?]
  constructor
  · intro h
    split at h
    · next v hv =>
      obtain ⟨q, rfl, rfl⟩ := v4?_eq_some_iff.mp hv
      rw [q.groups_eq] at h
      exact Option.some.inj h ▸ .quad q
    · obtain ⟨g, hg, rfl⟩ := Option.map_eq_some_iff.mp h
      exact .group (group?_eq_some_iff.mp hg)
  · intro h
    cases h with
    | @group cs g hg =>
      have hnone : v4? cs = none := by
        -- a dotted quad holds a point, which a group does not
        refine v4?_eq_none_iff.mpr fun q hq => ?_
        exact hg.not_mem (by decide) (hq ▸ q.point_mem)
      rw [hnone, group?_eq_some_iff.mpr hg]
      rfl
    | quad q =>
      rw [v4?_eq_some_iff.mpr ⟨q, rfl, rfl⟩]
      exact congrArg some q.groups_eq

/-- Joined fields are cut at the colons again. -/
theorem splitOn_intercalate_of_isField {fields : List (List Char)} (hne : fields ≠ [])
    (h : ∀ field ∈ fields, IsField field) :
    ([':'].intercalate fields).splitOn ':' = fields :=
  List.splitOn_intercalate ':' (fun field hfield => (h field hfield).no_colon) hne

/-- Joined fields are not empty. -/
theorem intercalate_ne_nil {fields : List (List Char)} (hne : fields ≠ [])
    (h : ∀ field ∈ fields, IsField field) : [':'].intercalate fields ≠ [] := by
  intro hnil
  have hsplit := splitOn_intercalate_of_isField hne h
  rw [hnil, List.splitOn_nil] at hsplit
  exact (h [] (by rw [← hsplit]; simp)).ne_nil rfl

/-- **The groups before an elision** are read from just their spellings. -/
theorem groupsBefore?_eq_some_iff {cs : List Char} {gs : List Nat} :
    groupsBefore? cs = some gs ↔ AreGroups cs gs := by
  rw [groupsBefore?]
  constructor
  · intro h
    split at h
    · next hcs => exact ⟨[], by rw [← Option.some.inj h]; exact .nil, hcs⟩
    · exact ⟨cs.splitOn ':', mapM_group?_eq_some_iff.mp h, (List.intercalate_splitOn ':').symm⟩
  · rintro ⟨fields, hfields, rfl⟩
    by_cases hne : fields = []
    · subst hne
      rw [List.forall₂_nil_left_iff.mp hfields]
      rfl
    · have hisField := isField_of_forall₂ hfields
      rw [if_neg (intercalate_ne_nil hne hisField), splitOn_intercalate_of_isField hne hisField]
      exact mapM_group?_eq_some_iff.mpr hfields

/-- **The groups at the end of an address** are read from just their spellings. -/
theorem groupsAtEnd?_eq_some_iff {cs : List Char} {gs : List Nat} :
    groupsAtEnd? cs = some gs ↔ EndInGroups cs gs := by
  rw [groupsAtEnd?]
  constructor
  · intro h
    split at h
    · next hcs => rw [hcs, ← Option.some.inj h]; exact .nil
    · have hne : cs.splitOn ':' ≠ [] := List.splitOn_ne_nil _ _
      simp only [List.getLast?_eq_some_getLast hne, Option.getD_some] at h
      split at h
      · next gs hs hgs hlast =>
        have hfields := EndInGroups.fields (mapM_group?_eq_some_iff.mp hgs)
          (lastGroups?_eq_some_iff.mp hlast)
        rw [List.dropLast_concat_getLast, List.intercalate_splitOn] at hfields
        exact Option.some.inj h ▸ hfields
      · exact absurd h (by simp)
  · intro h
    cases h with
    | nil => rfl
    | fields hfields hlast =>
      have hisField := isField_of_mem_concat hfields hlast
      rw [if_neg (intercalate_ne_nil (by simp) hisField),
        splitOn_intercalate_of_isField (by simp) hisField]
      simp only [List.dropLast_concat, List.getLast?_concat, Option.getD_some,
        mapM_group?_eq_some_iff.mpr hfields, lastGroups?_eq_some_iff.mpr hlast]

/-! ### Elisions -/

/-- There is no elision in a text without a colon. -/
theorem splitElision_append_of_not_mem {front : List Char} (h : ':' ∉ front) (rest : List Char) :
    splitElision (front ++ rest) = (splitElision rest).map fun r => (front ++ r.1, r.2) := by
  induction front with
  | nil => simp
  | cons c front ih =>
    obtain ⟨hc, hfront⟩ := not_or.mp (mt List.mem_cons.mpr h)
    rw [List.cons_append, splitElision, ih hfront, Option.map_map]
    · rfl
    · rintro rest rfl -
      exact absurd rfl hc

/-- A colon alone is no elision. -/
theorem splitElision_colon {rest : List Char} (h : rest.head? ≠ some ':') :
    splitElision (':' :: rest) = (splitElision rest).map fun r => (':' :: r.1, r.2) := by
  rw [splitElision]
  rintro rest' - rfl
  exact absurd rfl h

/-- There is no elision in joined fields. -/
theorem splitElision_intercalate_append {fields : List (List Char)}
    (h : ∀ field ∈ fields, IsField field) (rest : List Char) :
    splitElision ([':'].intercalate fields ++ rest) =
      (splitElision rest).map fun r => ([':'].intercalate fields ++ r.1, r.2) := by
  induction fields with
  | nil => simp
  | cons field fields ih =>
    obtain ⟨hfield, hfields⟩ := List.forall_mem_cons.mp h
    cases fields with
    | nil =>
      rw [List.intercalate_singleton]
      exact splitElision_append_of_not_mem hfield.no_colon rest
    | cons next fields =>
      obtain ⟨hnext, -⟩ := List.forall_mem_cons.mp hfields
      -- the next field does not begin with a colon
      have hhead : ([':'].intercalate (next :: fields) ++ rest).head? ≠ some ':' := by
        obtain ⟨c, cs, rfl⟩ := List.exists_cons_of_ne_nil hnext.ne_nil
        rw [List.intercalate_cons_cons_left, List.cons_append, List.head?_cons]
        rintro hc
        exact hnext.no_colon (by rw [Option.some.inj hc]; exact List.mem_cons_self)
      rw [List.intercalate_cons_cons, List.append_assoc, List.append_assoc,
        splitElision_append_of_not_mem hfield.no_colon, List.singleton_append,
        splitElision_colon hhead, ih hfields, Option.map_map, Option.map_map]
      congr 1
      funext r
      simp

/-- There is no elision in groups that end an address. -/
theorem EndInGroups.splitElision_eq_none {cs : List Char} {gs : List Nat}
    (h : EndInGroups cs gs) : splitElision cs = none := by
  cases h with
  | nil => rfl
  | fields hfields hlast =>
    have hjoin := splitElision_intercalate_append (isField_of_mem_concat hfields hlast) []
    rwa [List.append_nil] at hjoin

/-- The elision behind groups is the first one. -/
theorem AreGroups.splitElision_eq {before : List Char} {gs : List Nat} (h : AreGroups before gs)
    (after : List Char) : splitElision (before ++ ':' :: ':' :: after) = some (before, after) := by
  obtain ⟨fields, hfields, rfl⟩ := h
  rw [splitElision_intercalate_append (isField_of_forall₂ hfields), splitElision]
  simp

/-- **The eight groups of an address** are read from just their spellings. -/
theorem groups?_eq_some_iff {cs : List Char} {gs : List Nat} :
    groups? cs = some gs ↔ IsAddress cs gs := by
  constructor
  · intro h
    unfold groups? at h
    split at h
    · split at h
      · next gs hgs =>
        obtain ⟨hlength, h⟩ := Option.ite_none_right_eq_some.mp h
        obtain rfl := Option.some.inj h
        exact .full (groupsAtEnd?_eq_some_iff.mp hgs) hlength
      · exact absurd h (by simp)
    · next before after hcut =>
      split at h
      · next gs hs hgs hhs =>
        obtain ⟨hlength, h⟩ := Option.ite_none_right_eq_some.mp h
        rw [eq_append_of_splitElision hcut, ← Option.some.inj h]
        exact .elided (groupsBefore?_eq_some_iff.mp hgs) (groupsAtEnd?_eq_some_iff.mp hhs) hlength
      · exact absurd h (by simp)
  · intro h
    unfold groups?
    cases h with
    | full hend hlength =>
      simp only [hend.splitElision_eq_none, groupsAtEnd?_eq_some_iff.mpr hend, if_pos hlength]
    | elided hbefore hafter hlength =>
      simp only [hbefore.splitElision_eq, groupsBefore?_eq_some_iff.mpr hbefore,
        groupsAtEnd?_eq_some_iff.mpr hafter, if_pos hlength]

/-! ## IPv6 literals -/

/-- A zone is found in just its spellings. -/
theorem isZone_iff {cs : List Char} : isZone cs ↔ IsZonePart cs := by
  constructor
  · intro h
    unfold isZone at h
    split at h
    · exact .none
    · next zone =>
      obtain ⟨hne, hall⟩ := Bool.and_eq_true_iff.mp h
      exact .name (by simpa using hne) (List.all_eq_true.mp hall)
    · exact absurd h (by simp)
  · intro h
    cases h with
    | none => rfl
    | name hne hall =>
      exact Bool.and_eq_true_iff.mpr ⟨bne_iff_ne.mpr hne, List.all_eq_true.mpr hall⟩

/-- **An IPv6 literal** is read from just the spellings of an IPv6 address, as its value. -/
theorem v6?_eq_some_iff {cs : List Char} {v : Nat} : v6? cs = some v ↔ SpellsV6 cs v := by
  constructor
  · intro h
    rw [v6?] at h
    obtain ⟨hzone, h⟩ := Option.ite_none_right_eq_some.mp h
    obtain ⟨gs, hgs, rfl⟩ := Option.map_eq_some_iff.mp h
    have hspells := SpellsV6.literal (groups?_eq_some_iff.mp hgs) (isZone_iff.mp hzone)
    rwa [List.takeWhile_append_dropWhile, ← ofDigits_eq] at hspells
  · rintro ⟨haddress, hzone⟩
    next address zone gs =>
    have hall : ∀ c ∈ address, (c != '%') = true := by
      intro c hc
      exact bne_iff_ne.mpr fun h => haddress.percent_not_mem (h ▸ hc)
    have htake : (address ++ zone).takeWhile (· != '%') = address := by
      rw [List.takeWhile_append_of_pos hall]
      cases hzone <;> simp
    have hdrop : (address ++ zone).dropWhile (· != '%') = zone := by
      rw [List.dropWhile_append_of_pos hall]
      cases hzone <;> simp
    rw [v6?, htake, hdrop, if_pos (isZone_iff.mpr hzone), groups?_eq_some_iff.mpr haddress,
      Option.map_some, ofDigits_eq]

/-- Any other text is no IPv6 literal. -/
theorem v6?_eq_none_iff {cs : List Char} : v6? cs = none ↔ ∀ v, ¬SpellsV6 cs v := by
  rw [Option.eq_none_iff_forall_ne_some]
  exact forall_congr' fun v => not_congr v6?_eq_some_iff

/-! ### Values -/

/-- The value of a hexadecimal digit. -/
theorem value?_lt {c : Char} {d : Nat} (h : Hex.value? c = some d) : d < 16 := by
  simp only [Hex.value?, Hex.upperValue?, Bool.and_eq_true, decide_eq_true_eq] at h
  split at h
  · have := Option.some.inj h
    omega
  · split at h
    · have := Option.some.inj h
      omega
    · split at h
      · have := Option.some.inj h
        omega
      · exact absurd h (by simp)

/-- A group has 16 bits. -/
theorem IsGroup.lt {cs : List Char} {g : Nat} (h : IsGroup cs g) : g < 0x10000 := by
  cases h with
  | @digits ds _ hlength hds =>
    have hdigits : ∀ d ∈ ds.reverse, d < 16 := by
      intro d hd
      obtain ⟨c, -, hc⟩ := exists_of_forall₂ hds.flip (List.mem_reverse.mp hd)
      exact value?_lt hc
    calc Nat.ofDigits 16 ds.reverse < 16 ^ ds.reverse.length :=
          Nat.ofDigits_lt_base_pow_length (by decide) hdigits
      _ ≤ 16 ^ 4 := by
          refine Nat.pow_le_pow_right (by decide) ?_
          rw [List.length_reverse, ← hds.length_eq]
          exact hlength

/-- The groups of an address. -/
theorem IsAddress.groups {cs : List Char} {gs : List Nat} (h : IsAddress cs gs) :
    gs.length = 8 ∧ ∀ g ∈ gs, g < 0x10000 := by
  have hgroups : ∀ {fields gs}, List.Forall₂ IsGroup fields gs → ∀ g ∈ gs, g < 0x10000 := by
    intro fields gs h g hg
    obtain ⟨field, -, hfield⟩ := exists_of_forall₂ h.flip hg
    exact hfield.lt
  have hend : ∀ {cs gs}, EndInGroups cs gs → ∀ g ∈ gs, g < 0x10000 := by
    intro cs gs h
    cases h with
    | nil => simp
    | fields hfields hlast =>
      refine List.forall_mem_append.mpr ⟨hgroups hfields, ?_⟩
      cases hlast with
      | group hg => simpa using hg.lt
      | quad q =>
        have ha := q.a.isLt
        have hc := q.c.isLt
        simp only [Quad.groups, List.forall_mem_cons]
        refine ⟨by omega, by omega, by simp⟩
  cases h with
  | full h hlength => exact ⟨hlength, hend h⟩
  | elided hbefore hafter hlength =>
    obtain ⟨fields, hfields, rfl⟩ := hbefore
    refine ⟨by simp; omega, List.forall_mem_append.mpr ⟨List.forall_mem_append.mpr
      ⟨hgroups hfields, fun g hg => ?_⟩, hend hafter⟩⟩
    rw [List.eq_of_mem_replicate hg]
    decide

/-- **The value of an IPv6 address has 128 bits.** -/
theorem SpellsV6.value_lt {cs : List Char} {v : Nat} (h : SpellsV6 cs v) : v < 2 ^ 128 := by
  cases h with
  | @literal address zone gs haddress _ =>
    obtain ⟨hlength, hlt⟩ := haddress.groups
    have hbound := Nat.ofDigits_lt_base_pow_length (b := 0x10000) (l := gs.reverse) (by decide)
      fun g hg => hlt g (List.mem_reverse.mp hg)
    rw [List.length_reverse, hlength] at hbound
    exact hbound

end Ip

end TargetUri
