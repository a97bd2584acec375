import TargetUri.Proofs.Http.Authority

set_option autoImplicit false

/-!
# The grammar of authorities

A text is read as an authority by the grammar: user information up to the last at sign, if there is
one, then a host, then a colon and a port, if the text ends in them. A port is one to five decimal
digits of a value that is in range; whatever else stands behind the last colon is part of the host,
and so is a colon within an IPv6 literal.

## Main definitions

* `TargetUri.IsPort` — the texts of a port.
* `TargetUri.FollowsUserInfo` — what is left of a text behind its user information.
* `TargetUri.Authority.Grammar` — the authority that a text spells.
* `TargetUri.IsUserInfo`, `TargetUri.IsPortPart` — what may stand before and behind a host.

## Main results

* `TargetUri.Authority.parse_eq_iff_grammar` — reading follows the grammar.
* `TargetUri.Authority.exists_parts` — a text is made of the parts that are read.
* `TargetUri.Authority.parse_exact` — both, and the place of the colon before a port.
-/

namespace TargetUri

/-! ## Ports -/

/-- A port as it is written: one to five decimal digits whose value is in range. Leading zeros are
allowed. -/
structure IsPort (ds : List Char) (p : Nat) : Prop where
  /-- there is a digit -/
  ne_nil : ds ≠ []
  /-- there are five digits at most -/
  length_le : ds.length ≤ 5
  /-- there is nothing but digits -/
  isDigit : ∀ c ∈ ds, c.isDigit
  /-- the digits spell the port -/
  value : Nat.ofDigitChars 10 ds 0 = p
  /-- the port is in range -/
  le : p ≤ 65535

/-- A port is read from just the texts of a port. -/
theorem readPort?_eq_some_iff_isPort {ds : List Char} {p : Nat} :
    readPort? ds = some p ↔ IsPort ds p := by
  rw [readPort?_eq_some_iff, List.all_eq_true]
  constructor
  · rintro ⟨⟨hne, hlength, hdigits, hle⟩, rfl⟩
    exact ⟨hne, hlength, hdigits, rfl, hle⟩
  · rintro ⟨hne, hlength, hdigits, rfl, hle⟩
    exact ⟨⟨hne, hlength, hdigits, hle⟩, rfl⟩

/-- What may stand behind a host: a colon and a port, or nothing when there is no port. -/
inductive IsPortPart : List Char → Option Nat → Prop
  /-- no port -/
  | none : IsPortPart [] none
  /-- a port -/
  | some {ds : List Char} {p : Nat} : IsPort ds p → IsPortPart (':' :: ds) (some p)

/-- A text without user information is the host that is read and the part behind it. -/
theorem exists_isPortPart (cs : List Char) :
    ∃ part, cs = (splitPort cs).1 ++ part ∧ IsPortPart part (splitPort cs).2 := by
  cases hport : (splitPort cs).2 with
  | none =>
    refine ⟨[], ?_, .none⟩
    rw [splitPort_of_eq_none hport, List.append_nil]
  | some p =>
    obtain ⟨ds, hcs, hds⟩ := splitPort_eq_some_iff.mp (Prod.ext rfl hport)
    exact ⟨':' :: ds, hcs, .some (readPort?_eq_some_iff_isPort.mp hds)⟩

/-- No port is read from just the texts that do not end in one. -/
theorem splitPort_eq_none_iff {cs : List Char} :
    splitPort cs = (cs, none) ↔ ∀ host ds p, cs = host ++ ':' :: ds → ¬IsPort ds p := by
  constructor
  · rintro h host ds p hcs hds
    have hsome : splitPort cs = (host, some p) :=
      splitPort_eq_some_iff.mpr ⟨ds, hcs, readPort?_eq_some_iff_isPort.mpr hds⟩
    rw [h] at hsome
    simp at hsome
  · intro h
    obtain ⟨part, hcs, hpart⟩ := exists_isPortPart cs
    cases hport : (splitPort cs).2 with
    | none => exact splitPort_of_eq_none hport
    | some p =>
      rw [hport] at hpart
      cases hpart with
      | some hds => exact absurd hds (h _ _ _ hcs)

/-- A colon before a closing bracket stands within an IPv6 literal and separates no port. -/
theorem splitPort_of_bracket {before after : List Char} (hcolon : ':' ∉ after)
    (hbracket : ']' ∈ after) :
    splitPort (before ++ ':' :: after) = (before ++ ':' :: after, none) := by
  rw [splitPort, splitLast_append before hcolon]
  exact if_pos hbracket

/-! ## User information -/

/-- What is left of a text behind its user information: what follows the last at sign, or all of
it when there is none. -/
inductive FollowsUserInfo : (rest cs : List Char) → Prop
  /-- a text without user information -/
  | whole {cs : List Char} : '@' ∉ cs → FollowsUserInfo cs cs
  /-- user information and an at sign before the rest -/
  | behind {rest : List Char} (info : List Char) : '@' ∉ rest →
      FollowsUserInfo rest (info ++ '@' :: rest)

/-- User information is dropped up to the last at sign. -/
theorem followsUserInfo_iff {rest cs : List Char} :
    FollowsUserInfo rest cs ↔ dropUserInfo cs = rest := by
  constructor
  · rintro (hcs | ⟨info, hrest⟩)
    · exact dropUserInfo_of_not_mem hcs
    · rw [dropUserInfo, splitLast_append info hrest]
  · rintro rfl
    unfold dropUserInfo
    cases hs : splitLast '@' cs with
    | none => exact .whole (splitLast_eq_none_iff.mp hs)
    | some r =>
      obtain ⟨rfl, hrest⟩ := eq_append_of_splitLast hs
      exact .behind r.1 hrest

/-- What may stand before a host: user information and an at sign, or nothing. -/
def IsUserInfo (cs : List Char) : Prop := cs = [] ∨ ∃ info, cs = info ++ ['@']

/-- A text is its user information and what follows it. -/
theorem FollowsUserInfo.exists_isUserInfo {rest cs : List Char} (h : FollowsUserInfo rest cs) :
    ∃ info, cs = info ++ rest ∧ IsUserInfo info := by
  cases h with
  | whole => exact ⟨[], rfl, Or.inl rfl⟩
  | behind info => exact ⟨info ++ ['@'], by simp, Or.inr ⟨info, rfl⟩⟩

/-! ## Authorities -/

namespace Authority

/-- **The grammar of authorities.** Behind the user information stand a host, a colon and a port,
or a host alone where the text does not end in a colon and a port. -/
inductive Grammar (raw : String) : Authority → Prop
  /-- a host and a port -/
  | port {rest host ds : List Char} {p : Nat} : FollowsUserInfo rest raw.toList →
      rest = host ++ ':' :: ds → IsPort ds p → Grammar raw ⟨raw, String.ofList host, some p⟩
  /-- a host alone -/
  | host {rest : List Char} : FollowsUserInfo rest raw.toList →
      (∀ host ds p, rest = host ++ ':' :: ds → ¬IsPort ds p) →
      Grammar raw ⟨raw, String.ofList rest, none⟩

/-- An authority is read by cutting its port from what follows the user information. -/
theorem parse_of_followsUserInfo {raw : String} {rest : List Char}
    (h : FollowsUserInfo rest raw.toList) :
    parse raw = ⟨raw, String.ofList (splitPort rest).1, (splitPort rest).2⟩ := by
  rw [parse, followsUserInfo_iff.mp h]

/-- **Reading follows the grammar**: every text spells one authority, which is the one that is
read. -/
theorem parse_eq_iff_grammar {raw : String} {a : Authority} : parse raw = a ↔ Grammar raw a := by
  constructor
  · rintro rfl
    have hrest := followsUserInfo_iff.mpr (rfl : dropUserInfo raw.toList = _)
    rw [parse_of_followsUserInfo hrest]
    cases hport : (splitPort (dropUserInfo raw.toList)).2 with
    | none =>
      have hsplit := splitPort_of_eq_none hport
      rw [hsplit]
      exact .host hrest (splitPort_eq_none_iff.mp hsplit)
    | some p =>
      obtain ⟨ds, hcs, hds⟩ := splitPort_eq_some_iff.mp (Prod.ext rfl hport)
      exact .port hrest hcs (readPort?_eq_some_iff_isPort.mp hds)
  · rintro (⟨hrest, hcs, hds⟩ | ⟨hrest, hno⟩)
    · rw [parse_of_followsUserInfo hrest,
        splitPort_eq_some_iff.mpr ⟨_, hcs, readPort?_eq_some_iff_isPort.mpr hds⟩]
    · rw [parse_of_followsUserInfo hrest, splitPort_eq_none_iff.mpr hno]

/-- **A text is made of the parts that are read**: its user information, the host and the port. -/
theorem exists_parts (raw : String) :
    ∃ info part, raw.toList = info ++ (parse raw).host.toList ++ part ∧ IsUserInfo info ∧
      IsPortPart part (parse raw).port := by
  obtain ⟨info, hinfo, huser⟩ :=
    (followsUserInfo_iff.mpr (rfl : dropUserInfo raw.toList = _)).exists_isUserInfo
  obtain ⟨part, hpart, hport⟩ := exists_isPortPart (dropUserInfo raw.toList)
  refine ⟨info, part, ?_, huser, hport⟩
  rw [parse, String.toList_ofList, List.append_assoc, ← hpart, ← hinfo]

/-- **An authority is read exactly by its grammar.** Each text spells one authority, the one that is
read; the text is given back, the host holds no at sign, and the text is its user information, the
host and the port, one after the other. A colon before the last closing bracket never separates a
port. -/
theorem parse_exact (raw : String) :
    (∀ a, parse raw = a ↔ Grammar raw a) ∧
      (parse raw).raw = raw ∧
      '@' ∉ (parse raw).host.toList ∧
      (∃ info part, raw.toList = info ++ (parse raw).host.toList ++ part ∧ IsUserInfo info ∧
        IsPortPart part (parse raw).port) ∧
      ∀ rest before after, FollowsUserInfo rest raw.toList → rest = before ++ ':' :: after →
        ':' ∉ after → ']' ∈ after → parse raw = ⟨raw, String.ofList rest, none⟩ := by
  refine ⟨fun a => parse_eq_iff_grammar, rfl, not_mem_host_at raw, exists_parts raw, ?_⟩
  rintro rest before after hrest rfl hcolon hbracket
  rw [parse_of_followsUserInfo hrest, splitPort_of_bracket hcolon hbracket]

/-- Leading zeros count as digits of a port, and colons of the user information as none. -/
example : parse "u:1@[::1]:00443" = ⟨"u:1@[::1]:00443", "[::1]", some 443⟩ := by decide +kernel

end Authority

end TargetUri
