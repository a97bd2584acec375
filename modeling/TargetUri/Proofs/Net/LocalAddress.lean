import TargetUri.Proofs.Net.Spelling

set_option autoImplicit false

/-!
# Local addresses

Whether an address is local depends on the address and not on its spelling. An IPv4 address is local
in the network `127.0.0.0/8` and when it is zero, an IPv6 address when its value is zero or one, so
that no IPv4 address within an IPv6 one counts but the two of these values. A text that is no
address is not local, with one exception: an IPv4 address may be followed by a NUL character and
anything else.

## Main definitions

* `TargetUri.Ip.Quad.IsLocal` — a local IPv4 address.
* `TargetUri.Ip.Quad.mapped` — the IPv6 address that an IPv4 address is mapped to.

## Main results

* `TargetUri.Ip.isLocal_iff_of_spellsV6` — the locality of an IPv6 address, by its value.
* `TargetUri.Ip.isLocal_iff_of_text` — the locality of an IPv4 address, by its octets.
* `TargetUri.Ip.isLocal_iff_of_no_literal` — which other texts pass for local.
* `TargetUri.Ip.locality_of_value` — all of this.
-/

namespace TargetUri.Ip

/-! ## IPv4 addresses -/

namespace Quad

/-- A local IPv4 address: one of the loopback network, or the unspecified one. -/
def IsLocal (q : Quad) : Prop := q.a = 127 ∨ q = ⟨0, 0, 0, 0⟩

/-- Whether an IPv4 address is local can be computed. -/
instance (q : Quad) : Decidable q.IsLocal := inferInstanceAs (Decidable (_ ∨ _))

/-- The value of the IPv6 address that an IPv4 address is mapped to. -/
def mapped (q : Quad) : Nat := 0xffff * 2 ^ 32 + q.value

/-- An IPv4 address has its value for itself. -/
theorem value_inj {p q : Quad} : p.value = q.value ↔ p = q := by
  refine ⟨fun h => ?_, congrArg value⟩
  obtain ⟨⟨a, ha⟩, ⟨b, hb⟩, ⟨c, hc⟩, ⟨d, hd⟩⟩ := p
  obtain ⟨⟨a', ha'⟩, ⟨b', hb'⟩, ⟨c', hc'⟩, ⟨d', hd'⟩⟩ := q
  simp only [value] at h
  simp only [mk.injEq, Fin.mk.injEq]
  omega

/-- The locality of an IPv4 address can be told from its value. -/
theorem isLocal_iff_value {q : Quad} :
    (q.value / 0x1000000 == 127 || q.value == 0) = true ↔ q.IsLocal := by
  have hfirst : q.value / 0x1000000 = q.a := by
    have hb := q.b.isLt
    have hc := q.c.isLt
    have hd := q.d.isLt
    simp only [value]
    omega
  have hzero : q.value = 0 ↔ q = ⟨0, 0, 0, 0⟩ := value_inj (q := ⟨0, 0, 0, 0⟩)
  rw [Bool.or_eq_true, beq_iff_eq, beq_iff_eq, hfirst, hzero, IsLocal, Fin.ext_iff]
  rfl

/-- A dotted quad spells no IPv6 address: there is no colon in it. -/
theorem not_spellsV6 (q : Quad) (v : Nat) : ¬SpellsV6 q.text v := by
  intro h
  generalize hcs : q.text = cs at h
  cases h with
  | literal haddress _ =>
    refine q.isField.no_colon ?_
    rw [hcs]
    exact List.mem_append_left _ haddress.colon_mem

/-- There is no NUL character in a dotted quad. -/
theorem takeWhile_text_append (q : Quad) (tail : List Char) :
    (q.text ++ tail).takeWhile (· != '\x00') = q.text ++ tail.takeWhile (· != '\x00') := by
  refine List.takeWhile_append_of_pos fun c hc => bne_iff_ne.mpr ?_
  rintro rfl
  exact absurd (q.isDigit_or_eq hc) (by decide)

end Quad

/-! ## Texts -/

variable {s : String}

/-- **The locality of an IPv6 address** depends on its value alone. -/
theorem isLocal_iff_of_spellsV6 {v : Nat} (h : SpellsV6 s.toList v) :
    isLocal s ↔ v = 0 ∨ v = 1 := by
  rw [isLocal, v6?_eq_some_iff.mpr h]
  simp only [decide_eq_true_eq]
  omega

/-- Any other text is read as far as its first NUL character. -/
theorem isLocal_eq_of_not_spellsV6 (h : ∀ v, ¬SpellsV6 s.toList v) :
    isLocal s = (v4? (s.toList.takeWhile (· != '\x00'))).any
      fun v => v / 0x1000000 == 127 || v == 0 := by
  rw [isLocal, v6?_eq_none_iff.mpr h]
  cases v4? (s.toList.takeWhile (· != '\x00')) with
  | none => rfl
  | some v => rfl

/-- A text that begins with an IPv4 address, of which there is nothing more before a NUL character,
is local when the address is. -/
theorem isLocal_iff_of_takeWhile {q : Quad} (h : ∀ v, ¬SpellsV6 s.toList v)
    (hq : s.toList.takeWhile (· != '\x00') = q.text) : isLocal s ↔ q.IsLocal := by
  rw [isLocal_eq_of_not_spellsV6 h, v4?_eq_some_iff.mpr ⟨q, hq, rfl⟩, Option.any_some]
  exact Quad.isLocal_iff_value

/-- **The locality of an IPv4 address** depends on its octets. -/
theorem isLocal_iff_of_text {q : Quad} (h : s.toList = q.text) : isLocal s ↔ q.IsLocal := by
  refine isLocal_iff_of_takeWhile (fun v => h ▸ q.not_spellsV6 v) ?_
  have htake := q.takeWhile_text_append []
  rw [List.append_nil, List.takeWhile_nil, List.append_nil] at htake
  rw [h, htake]

/-- **Of the other texts**, those pass for local in which a local IPv4 address is followed by a NUL
character. -/
theorem isLocal_iff_of_no_literal (hv4 : ∀ q : Quad, s.toList ≠ q.text)
    (hv6 : ∀ v, ¬SpellsV6 s.toList v) :
    isLocal s ↔ ∃ (q : Quad) (tail : List Char),
      s.toList = q.text ++ '\x00' :: tail ∧ q.IsLocal := by
  constructor
  · intro hlocal
    by_cases hquad : ∃ q : Quad, s.toList.takeWhile (· != '\x00') = q.text
    · obtain ⟨q, hq⟩ := hquad
      have hsplit : s.toList = q.text ++ s.toList.dropWhile (· != '\x00') := by
        rw [← hq, List.takeWhile_append_dropWhile]
      cases hdrop : s.toList.dropWhile (· != '\x00') with
      | nil =>
        rw [hdrop, List.append_nil] at hsplit
        exact absurd hsplit (hv4 q)
      | cons c tail =>
        have hstop := List.head?_dropWhile_not (· != '\x00') s.toList
        rw [hdrop, List.head?_cons] at hstop
        obtain rfl : c = '\x00' := by simpa using hstop
        rw [hdrop] at hsplit
        exact ⟨q, tail, hsplit, (isLocal_iff_of_takeWhile hv6 hq).mp hlocal⟩
    · rw [isLocal_eq_of_not_spellsV6 hv6, v4?_eq_none_iff.mpr (not_exists.mp hquad)] at hlocal
      exact absurd hlocal (by decide)
  · rintro ⟨q, tail, hs, hlocal⟩
    refine (isLocal_iff_of_takeWhile hv6 ?_).mpr hlocal
    rw [hs, q.takeWhile_text_append]
    simp

/-- **Whether an address is local depends on the address, not on its spelling.** An IPv4 literal is
local when its first octet is 127 or all its octets are zero. An IPv6 literal is local when its
128-bit value is zero or one, whatever its spelling and its zone; so no address that an IPv4 address
is mapped to is local, and of those compatible with an IPv4 address only those of `0.0.0.0` and
`0.0.0.1` are. A text that is no literal is not local, unless a local IPv4 literal and a NUL
character stand in front of it. -/
theorem locality_of_value (s : String) :
    (∀ q : Quad, s.toList = q.text → (isLocal s ↔ q.a = 127 ∨ q = ⟨0, 0, 0, 0⟩)) ∧
    (∀ v, SpellsV6 s.toList v → v < 2 ^ 128 ∧ (isLocal s ↔ v = 0 ∨ v = 1) ∧
      (∀ s' : String, SpellsV6 s'.toList v → isLocal s' = isLocal s) ∧
      (∀ q : Quad, v = q.mapped → ¬isLocal s) ∧
      ∀ q : Quad, v = q.value → (isLocal s ↔ q = ⟨0, 0, 0, 0⟩ ∨ q = ⟨0, 0, 0, 1⟩)) ∧
    ((∀ q : Quad, s.toList ≠ q.text) → (∀ v, ¬SpellsV6 s.toList v) →
      (isLocal s ↔ ∃ (q : Quad) (tail : List Char), s.toList = q.text ++ '\x00' :: tail ∧
        (q.a = 127 ∨ q = ⟨0, 0, 0, 0⟩))) := by
  refine ⟨fun q h => isLocal_iff_of_text h, fun v h => ?_, isLocal_iff_of_no_literal⟩
  have hlocal := isLocal_iff_of_spellsV6 h
  refine ⟨h.value_lt, hlocal, fun s' h' => ?_, fun q hv => ?_, fun q hv => ?_⟩
  · rw [Bool.eq_iff_iff, hlocal, isLocal_iff_of_spellsV6 h']
  · rw [hlocal, hv, Quad.mapped]
    omega
  · have hzero : q.value = 0 ↔ q = ⟨0, 0, 0, 0⟩ := Quad.value_inj (q := ⟨0, 0, 0, 0⟩)
    have hone : q.value = 1 ↔ q = ⟨0, 0, 0, 1⟩ := Quad.value_inj (q := ⟨0, 0, 0, 1⟩)
    rw [hlocal, hv, hzero, hone]

example : isLocal "0:0::0.0.0.1%eth0" = true ∧ isLocal "::FFFF:127.0.0.1" = false := by
  decide +kernel

/-- A local IPv4 literal in front of a NUL character makes a text pass for local that is no
literal. -/
theorem isLocal_before_nul : isLocal "127.0.0.1\x00" ∧
    (∀ q : Quad, "127.0.0.1\x00".toList ≠ q.text) ∧ ∀ v, ¬SpellsV6 "127.0.0.1\x00".toList v := by
  refine ⟨by decide +kernel, v4?_eq_none_iff.mp ?_, v6?_eq_none_iff.mp ?_⟩
  · decide +kernel
  · decide +kernel

end TargetUri.Ip
