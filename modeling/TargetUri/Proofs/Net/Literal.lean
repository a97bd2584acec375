import TargetUri.Net.Ip
import TargetUri.Proofs.Text.Fields

set_option autoImplicit false

/-!
# The characters of IP literals

A text that is an IP literal is made of few characters: digits and points for a dotted quad;
hexadecimal digits, colons and points for an IPv6 literal, and what a zone may hold. None of them
is an at sign, a bracket or a slash, so a literal can stand in an authority.

## Main definitions

* `TargetUri.Ip.IsLiteral` — a text that is an IPv4 or IPv6 literal.
* `TargetUri.Ip.isLiteralChar` — a character that a literal may hold.

## Main results

* `TargetUri.Ip.isDigit_or_eq_of_v4?` — the characters of a dotted quad.
* `TargetUri.Ip.isLiteralChar_of_v6?` — the characters of an IPv6 literal.
-/

namespace TargetUri

namespace Ip

/-- A text that is an IPv4 or IPv6 literal. -/
def IsLiteral (s : String) : Prop := (v4? s.toList).isSome ∨ isV6 s

/-! ## Dotted quads -/

/-- The characters of an octet are digits. -/
theorem isDigit_of_octet? {cs : List Char} {v : Nat} (h : octet? cs = some v) {c : Char}
    (hc : c ∈ cs) : c.isDigit := by
  rw [octet?] at h
  obtain ⟨⟨-, -, hall, -⟩, -⟩ := Option.ite_none_right_eq_some.mp h
  exact List.all_eq_true.mp hall c hc

/-- **The characters of a dotted quad** are digits and points. -/
theorem isDigit_or_eq_of_v4? {cs : List Char} {v : Nat} (h : v4? cs = some v) {c : Char}
    (hc : c ∈ cs) : c.isDigit ∨ c = '.' := by
  rcases eq_or_mem_splitOn_of_mem '.' hc with rfl | ⟨field, hf, hc⟩
  · exact Or.inr rfl
  · cases ho : (cs.splitOn '.').mapM octet? with
    | none => simp [v4?, ho] at h
    | some octets =>
      obtain ⟨o, ho⟩ := exists_of_mapM_eq_some ho hf
      exact Or.inl (isDigit_of_octet? ho hc)

/-! ## IPv6 literals -/

/-- A character that a literal may hold: one of a zone name, or the percent sign before it. -/
def isLiteralChar (c : Char) : Bool := isZoneChar c || c == '%'

/-- A hexadecimal digit is a letter or digit. -/
theorem isAlphanum_of_value? {c : Char} {v : Nat} (h : Hex.value? c = some v) :
    c.isAlphanum := by
  have hn : (0x30 ≤ c.toNat ∧ c.toNat ≤ 0x39) ∨ (0x41 ≤ c.toNat ∧ c.toNat ≤ 0x46) ∨
      (0x61 ≤ c.toNat ∧ c.toNat ≤ 0x66) := by
    simp only [Hex.value?, Hex.upperValue?, Bool.and_eq_true, decide_eq_true_eq] at h
    split at h
    · omega
    · split at h
      · omega
      · split at h
        · omega
        · simp at h
  change (decide (c.val ≥ 65 ∧ c.val ≤ 90) || c.val ≥ 97 && c.val ≤ 122 ||
    c.val ≥ 48 && c.val ≤ 57) = true
  simp only [UInt32.le_iff_toNat_le, ge_iff_le, Bool.or_eq_true, Bool.and_eq_true,
    decide_eq_true_eq]
  change ((65 ≤ c.toNat ∧ c.toNat ≤ 90) ∨ (97 ≤ c.toNat ∧ c.toNat ≤ 122)) ∨
    (48 ≤ c.toNat ∧ c.toNat ≤ 57)
  omega

/-- The characters of a group may stand in a literal. -/
theorem isLiteralChar_of_group? {cs : List Char} {v : Nat} (h : group? cs = some v) {c : Char}
    (hc : c ∈ cs) : isLiteralChar c := by
  rw [group?] at h
  obtain ⟨-, h⟩ := Option.ite_none_right_eq_some.mp h
  obtain ⟨ds, hds, -⟩ := Option.map_eq_some_iff.mp h
  obtain ⟨d, hd⟩ := exists_of_mapM_eq_some hds hc
  simp [isLiteralChar, isZoneChar, isAlphanum_of_value? hd]

/-- The characters of a dotted quad may stand in a literal. -/
theorem isLiteralChar_of_v4? {cs : List Char} {v : Nat} (h : v4? cs = some v) {c : Char}
    (hc : c ∈ cs) : isLiteralChar c := by
  rcases isDigit_or_eq_of_v4? h hc with hd | rfl
  · simp [isLiteralChar, isZoneChar, Char.isAlphanum, hd]
  · decide

/-- The characters of the last field may stand in a literal. -/
theorem isLiteralChar_of_lastGroups? {cs : List Char} {gs : List Nat}
    (h : lastGroups? cs = some gs) {c : Char} (hc : c ∈ cs) : isLiteralChar c := by
  rw [lastGroups?] at h
  cases hv : v4? cs with
  | some v => exact isLiteralChar_of_v4? hv hc
  | none =>
    rw [hv] at h
    obtain ⟨v, hv, -⟩ := Option.map_eq_some_iff.mp h
    exact isLiteralChar_of_group? hv hc

/-- The characters before an elision may stand in a literal. -/
theorem isLiteralChar_of_groupsBefore? {cs : List Char} {gs : List Nat}
    (h : groupsBefore? cs = some gs) {c : Char} (hc : c ∈ cs) : isLiteralChar c := by
  rw [groupsBefore?, if_neg (List.ne_nil_of_mem hc)] at h
  rcases eq_or_mem_splitOn_of_mem ':' hc with rfl | ⟨field, hf, hc⟩
  · decide
  · obtain ⟨v, hv⟩ := exists_of_mapM_eq_some h hf
    exact isLiteralChar_of_group? hv hc

/-- The characters at the end of a literal may stand in one. -/
theorem isLiteralChar_of_groupsAtEnd? {cs : List Char} {gs : List Nat}
    (h : groupsAtEnd? cs = some gs) {c : Char} (hc : c ∈ cs) : isLiteralChar c := by
  rw [groupsAtEnd?, if_neg (List.ne_nil_of_mem hc)] at h
  have hne : cs.splitOn ':' ≠ [] := List.splitOn_ne_nil _ _
  rcases eq_or_mem_splitOn_of_mem ':' hc with rfl | ⟨field, hf, hc⟩
  · decide
  · -- the last field may be a dotted quad, the others are groups
    rw [← List.dropLast_concat_getLast hne, List.mem_append, List.mem_singleton] at hf
    simp only [List.getLast?_eq_some_getLast hne, Option.getD_some] at h
    split at h
    · rename_i hgs hlast
      rcases hf with hf | rfl
      · obtain ⟨v, hv⟩ := exists_of_mapM_eq_some hgs hf
        exact isLiteralChar_of_group? hv hc
      · exact isLiteralChar_of_lastGroups? hlast hc
    · simp at h

/-- A cut at the first double colon loses nothing else. -/
theorem eq_append_of_splitElision {cs before after : List Char}
    (h : splitElision cs = some (before, after)) : cs = before ++ ':' :: ':' :: after := by
  fun_induction splitElision cs generalizing before with
  | case1 => simp at h
  | case2 cs =>
    obtain ⟨rfl, rfl⟩ : [] = before ∧ cs = after := by simpa using h
    rfl
  | case3 c cs hc ih =>
    obtain ⟨r, hr, heq⟩ := Option.map_eq_some_iff.mp h
    obtain ⟨rfl, rfl⟩ : c :: r.1 = before ∧ r.2 = after := by simpa using heq
    rw [ih hr, List.cons_append]

/-- The characters of a literal without a zone. -/
theorem isLiteralChar_of_groups? {cs : List Char} {gs : List Nat} (h : groups? cs = some gs)
    {c : Char} (hc : c ∈ cs) : isLiteralChar c := by
  unfold groups? at h
  split at h
  · split at h
    · rename_i hend
      exact isLiteralChar_of_groupsAtEnd? hend hc
    · simp at h
  · rename_i before after hcut
    split at h
    · rename_i hbefore hend
      rw [eq_append_of_splitElision hcut] at hc
      rcases List.mem_append.mp hc with hc | hc
      · exact isLiteralChar_of_groupsBefore? hbefore hc
      · rcases List.mem_cons.mp hc with rfl | hc
        · decide
        · rcases List.mem_cons.mp hc with rfl | hc
          · decide
          · exact isLiteralChar_of_groupsAtEnd? hend hc
    · simp at h

/-- The characters of a zone, with the percent sign before it. -/
theorem isLiteralChar_of_isZone {cs : List Char} (h : isZone cs) {c : Char} (hc : c ∈ cs) :
    isLiteralChar c := by
  unfold isZone at h
  split at h
  · simp at hc
  · rename_i z
    rcases List.mem_cons.mp hc with rfl | hc
    · decide
    · obtain ⟨-, hall⟩ := Bool.and_eq_true_iff.mp h
      simp [isLiteralChar, List.all_eq_true.mp hall c hc]
  · simp at h

/-- **The characters of an IPv6 literal**: letters and digits, `-`, `.`, `:` and `%`. -/
theorem isLiteralChar_of_v6? {cs : List Char} {v : Nat} (h : v6? cs = some v) {c : Char}
    (hc : c ∈ cs) : isLiteralChar c := by
  rw [v6?] at h
  obtain ⟨hzone, h⟩ := Option.ite_none_right_eq_some.mp h
  obtain ⟨gs, hgs, -⟩ := Option.map_eq_some_iff.mp h
  rw [← List.takeWhile_append_dropWhile (p := (· != '%')) (l := cs), List.mem_append] at hc
  rcases hc with hc | hc
  · exact isLiteralChar_of_groups? hgs hc
  · exact isLiteralChar_of_isZone hzone hc

/-- **The characters of a literal**, of either family. -/
theorem IsLiteral.isLiteralChar {s : String} (h : IsLiteral s) {c : Char} (hc : c ∈ s.toList) :
    isLiteralChar c := by
  rcases h with h | h
  · obtain ⟨v, hv⟩ := Option.isSome_iff_exists.mp h
    exact isLiteralChar_of_v4? hv hc
  · obtain ⟨v, hv⟩ := Option.isSome_iff_exists.mp h
    exact isLiteralChar_of_v6? hv hc

end Ip

end TargetUri
