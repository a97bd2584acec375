import TargetUri.Proofs.Http.SchemePrefix

set_option autoImplicit false

/-!
# The forms of a request target

Every text has exactly one of the forms of a target: a path, the asterisk, an authority and a path
behind a scheme, or an authority alone. Reading loses nothing of it. Behind a scheme the authority
is the longest beginning that holds no slash, question mark or number sign, and what is left is the
path, with a slash put before it when it lacks one.

## Main definitions

* `TargetUri.IsScheme` — the texts of a scheme.
* `TargetUri.IsAuthorityPart` — the part of a text behind a scheme that is its authority.
* `TargetUri.RequestTarget.HasForm` — the target that a text stands for.

## Main results

* `TargetUri.IsAuthorityPart.eq_takeWhile` — the authority behind a scheme is the longest one.
* `TargetUri.RequestTarget.parse_eq_iff_hasForm` — every text has one form, by which it is read.
* `TargetUri.RequestTarget.parse_forms` — the forms, and what is left of a text in each.
-/

namespace TargetUri

/-! ## Schemes -/

/-- A scheme as it is written: a letter, then letters, digits, plus signs, points and minus
signs. -/
def IsScheme (cs : List Char) : Prop :=
  ∃ letter name, cs = letter :: name ∧ letter.isAlpha ∧ ∀ c ∈ name, isSchemeChar c

/-- **A text is cut behind a scheme and `://`.** -/
theorem splitScheme_eq_some_iff_isScheme {cs before rest : List Char} :
    splitScheme cs = some (before, rest) ↔
      ∃ scheme, IsScheme scheme ∧ before = scheme ++ "://".toList ∧ cs = before ++ rest := by
  rw [splitScheme_eq_some_iff]
  constructor
  · rintro ⟨letter, name, hletter, hname, hbefore, hcs⟩
    exact ⟨letter :: name, ⟨letter, name, rfl, hletter, List.all_eq_true.mp hname⟩, hbefore, hcs⟩
  · rintro ⟨scheme, ⟨letter, name, rfl, hletter, hname⟩, hbefore, hcs⟩
    exact ⟨letter, name, hletter, List.all_eq_true.mpr hname, hbefore, hcs⟩

/-- A text begins with a scheme when it is one, `://` and anything behind. -/
theorem beginsWithScheme_iff {cs : List Char} :
    BeginsWithScheme cs ↔ ∃ scheme rest, IsScheme scheme ∧ cs = scheme ++ "://".toList ++ rest := by
  constructor
  · rintro ⟨letter, name, rest, hcs, hletter, hname⟩
    exact ⟨letter :: name, rest, ⟨letter, name, rfl, hletter, List.all_eq_true.mp hname⟩, hcs⟩
  · rintro ⟨scheme, rest, ⟨letter, name, rfl, hletter, hname⟩, hcs⟩
    exact ⟨letter, name, rest, hcs, hletter, List.all_eq_true.mpr hname⟩

/-! ## The authority behind a scheme -/

/-- The part of a text that is its authority: the longest beginning without a character that ends
an authority. -/
structure IsAuthorityPart (authority rest : List Char) : Prop where
  /-- the text begins with it -/
  isPrefix : authority <+: rest
  /-- it holds no character that ends an authority -/
  stays : ∀ c ∈ authority, endsAuthority c = false
  /-- there is no longer one -/
  longest : ∀ other, other <+: rest → (∀ c ∈ other, endsAuthority c = false) →
    other.length ≤ authority.length

/-- A beginning without a character that ends an authority is part of the cut before the first
such character. -/
theorem isPrefix_takeWhile {part rest : List Char} (h : part <+: rest)
    (hstays : ∀ c ∈ part, endsAuthority c = false) :
    part <+: rest.takeWhile (!endsAuthority ·) := by
  obtain ⟨tail, rfl⟩ := h
  have hall : ∀ c ∈ part, (!endsAuthority c) = true := fun c hc => by simp [hstays c hc]
  rw [List.takeWhile_append_of_pos hall]
  exact List.prefix_append _ _

/-- The cut before the first character that ends an authority is the longest beginning without
one. -/
theorem isAuthorityPart_takeWhile (rest : List Char) :
    IsAuthorityPart (rest.takeWhile (!endsAuthority ·)) rest where
  isPrefix := List.takeWhile_prefix _
  stays := fun _ hc => endsAuthority_of_mem_takeWhile hc
  longest := fun _ hother hstays => (isPrefix_takeWhile hother hstays).length_le

/-- **The authority behind a scheme is the longest one**, and there is no second of its length. -/
theorem IsAuthorityPart.eq_takeWhile {authority rest : List Char}
    (h : IsAuthorityPart authority rest) : authority = rest.takeWhile (!endsAuthority ·) := by
  have htake := isAuthorityPart_takeWhile rest
  have hprefix := isPrefix_takeWhile h.isPrefix h.stays
  exact hprefix.eq_of_length_le (h.longest _ htake.isPrefix htake.stays)

/-- Every text has an authority part, and something left behind it. -/
theorem exists_isAuthorityPart (rest : List Char) :
    ∃ authority tail, rest = authority ++ tail ∧ IsAuthorityPart authority rest :=
  ⟨_, _, List.takeWhile_append_dropWhile.symm, isAuthorityPart_takeWhile rest⟩

/-- A slash is put before a path that does not start with one. -/
theorem withSlash_eq (tail : List Char) :
    withSlash tail = if tail.head? = some '/' then tail else '/' :: tail := by
  unfold withSlash
  split
  · simp
  · rename_i hno
    refine (if_neg fun h => ?_).symm
    obtain ⟨cs, rfl⟩ := List.head?_eq_some_iff.mp h
    exact hno cs rfl

/-! ## The forms -/

namespace RequestTarget

/-- **The target that a text stands for**, one rule for each form. -/
inductive HasForm (raw : String) : RequestTarget → Prop
  /-- a path -/
  | path : raw.toList.head? = some '/' → HasForm raw ⟨none, raw⟩
  /-- an asterisk -/
  | asterisk : raw = "*" → HasForm raw ⟨none, raw⟩
  /-- a scheme, an authority and a path, which may lack its slash or be missing -/
  | hierarchy {scheme authority tail : List Char} : IsScheme scheme →
      raw.toList = scheme ++ "://".toList ++ (authority ++ tail) →
      IsAuthorityPart authority (authority ++ tail) →
      HasForm raw ⟨some (.parse (String.ofList authority)),
        String.ofList (if tail.head? = some '/' then tail else '/' :: tail)⟩
  /-- an authority alone -/
  | authority : raw.toList.head? ≠ some '/' → raw ≠ "*" → ¬BeginsWithScheme raw.toList →
      HasForm raw ⟨some (.parse raw), ""⟩

/-- What follows a scheme is read as an authority and a path. -/
theorem parse_of_isAuthorityPart {raw : String} {scheme authority tail : List Char}
    (hscheme : IsScheme scheme) (hraw : raw.toList = scheme ++ "://".toList ++ (authority ++ tail))
    (h : IsAuthorityPart authority (authority ++ tail)) :
    parse raw = ⟨some (.parse (String.ofList authority)),
      String.ofList (if tail.head? = some '/' then tail else '/' :: tail)⟩ := by
  have hsplit : splitScheme raw.toList = some (scheme ++ "://".toList, authority ++ tail) :=
    splitScheme_eq_some_iff_isScheme.mpr ⟨scheme, hscheme, rfl, hraw⟩
  have htake := h.eq_takeWhile
  have hdrop : (authority ++ tail).dropWhile (!endsAuthority ·) = tail := by
    have hboth := List.takeWhile_append_dropWhile (p := (!endsAuthority ·)) (l := authority ++ tail)
    rw [← htake] at hboth
    exact List.append_cancel_left hboth
  rw [parse_of_splitScheme hsplit, ofHierarchy, ← htake, hdrop, withSlash_eq]

/-- **Every text has one form, and is read by it.** -/
theorem parse_eq_iff_hasForm {raw : String} {target : RequestTarget} :
    parse raw = target ↔ HasForm raw target := by
  constructor
  · rintro rfl
    by_cases hpath : raw.toList.head? = some '/'
    · rw [parse_of_head? (Or.inl hpath)]
      exact .path hpath
    by_cases hasterisk : raw = "*"
    · rw [parse_of_head? (Or.inr hasterisk)]
      exact .asterisk hasterisk
    by_cases hscheme : BeginsWithScheme raw.toList
    · obtain ⟨scheme, rest, hs, hraw⟩ := beginsWithScheme_iff.mp hscheme
      obtain ⟨authority, tail, rfl, hpart⟩ := exists_isAuthorityPart rest
      rw [parse_of_isAuthorityPart hs hraw hpart]
      exact .hierarchy hs hraw hpart
    · rw [parse_of_not_beginsWithScheme hpath hasterisk hscheme]
      exact .authority hpath hasterisk hscheme
  · rintro (hpath | hasterisk | ⟨hscheme, hraw, hpart⟩ | ⟨hpath, hasterisk, hscheme⟩)
    · exact parse_of_head? (Or.inl hpath)
    · exact parse_of_head? (Or.inr hasterisk)
    · exact parse_of_isAuthorityPart hscheme hraw hpart
    · exact parse_of_not_beginsWithScheme hpath hasterisk hscheme

/-- The path of a target is empty, an asterisk, or starts with a slash. -/
theorem HasForm.path_cases {raw : String} {target : RequestTarget} (h : HasForm raw target) :
    target.path = "" ∨ target.path = "*" ∨ target.path.toList.head? = some '/' := by
  cases h with
  | path hpath => exact Or.inr (Or.inr hpath)
  | asterisk hasterisk => exact Or.inr (Or.inl hasterisk)
  | hierarchy =>
    refine Or.inr (Or.inr ?_)
    rw [String.toList_ofList]
    split
    · assumption
    · rfl
  | authority => exact Or.inl rfl

/-- **The forms of a target.** Every text has exactly one of them and is read by it, so that its
path is empty, an asterisk, or starts with a slash. However a text is cut behind a scheme, what
follows is the authority, which holds no slash, question mark or number sign, and the path, up to
the slash that is put before a path without one.

**Proof sketch.** The forms exclude each other: a path and an asterisk begin with no letter, so with
no scheme. Behind a scheme, the cut before the first character that ends an authority gives the
longest beginning without one, and there is only one of its length. -/
theorem parse_forms (raw : String) :
    (∀ target, parse raw = target ↔ HasForm raw target) ∧
      ((parse raw).path = "" ∨ (parse raw).path = "*" ∨
        (parse raw).path.toList.head? = some '/') ∧
      ∀ scheme rest, IsScheme scheme → raw.toList = scheme ++ "://".toList ++ rest →
        ∃ a, (parse raw).authority = some a ∧ StaysInAuthority a.raw ∧
          ∃ tail, rest = a.raw.toList ++ tail ∧ (parse raw).path.toList =
            if tail.head? = some '/' then tail else '/' :: tail := by
  refine ⟨fun target => parse_eq_iff_hasForm, (parse_eq_iff_hasForm.mp rfl).path_cases, ?_⟩
  intro scheme rest hscheme hraw
  obtain ⟨authority, tail, rfl, hpart⟩ := exists_isAuthorityPart rest
  rw [parse_of_isAuthorityPart hscheme hraw hpart]
  have hauthority : (Authority.parse (String.ofList authority)).raw.toList = authority :=
    String.toList_ofList
  refine ⟨_, rfl, ?_, tail, ?_, String.toList_ofList⟩
  · intro c hc
    rw [hauthority] at hc
    exact hpart.stays c hc
  · rw [hauthority]

end RequestTarget

end TargetUri
