import TargetUri.Proofs.Http.RequestAuthority
import TargetUri.Proofs.Http.SynthesizedUrl

set_option autoImplicit false

/-!
# Authorities that begin with a scheme

The authority of a request stands behind a scheme in its URL, so it should not begin with one
itself. An authority from a target that starts with a scheme never does: it ends before the first
slash. A target without a scheme is an authority as a whole, and what is cut from its front can
bring a scheme there: the user information, which may end right before one. The port that is cut
from its end cannot, because no port holds a slash.

## Main definitions

* `TargetUri.BeginsWithScheme` — a text that begins with a scheme.
* `TargetUri.SchemeFollowsUserInfo` — a text with user information right before a scheme.

## Main results

* `TargetUri.splitScheme_eq_some_iff` — where a text is cut behind its scheme.
* `TargetUri.beginsWithScheme_splitPort_iff` — reading a port neither makes nor hides a scheme.
* `TargetUri.beginsWithScheme_requestAuthority_iff` — the authority that a target names begins with
  a scheme exactly when user information that precedes one is dropped.
-/

namespace TargetUri

/-! ## Schemes -/

/-- A text that begins with a scheme: a letter, then letters, digits, plus signs, points and minus
signs, then `://`. -/
def BeginsWithScheme (cs : List Char) : Prop :=
  ∃ letter name rest, cs = letter :: name ++ "://".toList ++ rest ∧ letter.isAlpha ∧
    name.all isSchemeChar

/-- A text with user information right before a scheme: what follows its last at sign begins with
one. -/
def SchemeFollowsUserInfo (cs : List Char) : Prop :=
  ∃ info rest, cs = info ++ '@' :: rest ∧ '@' ∉ rest ∧ BeginsWithScheme rest

/-- **The cut behind a scheme** comes after a letter, characters of a scheme and `://`. There is no
other such cut, because no character of a scheme is a colon. -/
theorem splitScheme_eq_some_iff {cs scheme rest : List Char} :
    splitScheme cs = some (scheme, rest) ↔
      ∃ letter name, letter.isAlpha ∧ name.all isSchemeChar ∧
        scheme = letter :: name ++ "://".toList ∧ cs = scheme ++ rest := by
  constructor
  · intro h
    cases cs with
    | nil => simp [splitScheme] at h
    | cons letter cs =>
      rw [splitScheme] at h
      split at h
      · rename_i hletter
        split at h
        · rename_i rest' hrest
          obtain ⟨rfl, rfl⟩ := Prod.mk.inj (Option.some_inj.mp h)
          refine ⟨letter, cs.takeWhile isSchemeChar, hletter, List.all_takeWhile, rfl, ?_⟩
          have hcs : cs.takeWhile isSchemeChar ++ ':' :: '/' :: '/' :: rest' = cs := by
            rw [← hrest, List.takeWhile_append_dropWhile]
          simp [hcs]
        · simp at h
      · simp at h
  · rintro ⟨letter, name, hletter, hname, rfl, rfl⟩
    have hall := List.all_eq_true.mp hname
    rw [List.append_assoc, List.cons_append, splitScheme, if_pos hletter,
      List.dropWhile_append_of_pos hall, List.takeWhile_append_of_pos hall]
    change some (letter :: (name ++ []) ++ "://".toList, rest) = _
    rw [List.append_nil]

/-- A scheme is found exactly when there is one. -/
theorem isSome_splitScheme_iff {cs : List Char} :
    (splitScheme cs).isSome ↔ BeginsWithScheme cs := by
  rw [Option.isSome_iff_exists]
  constructor
  · rintro ⟨⟨scheme, rest⟩, h⟩
    obtain ⟨letter, name, hletter, hname, rfl, hcs⟩ := splitScheme_eq_some_iff.mp h
    exact ⟨letter, name, rest, hcs, hletter, hname⟩
  · rintro ⟨letter, name, rest, hcs, hletter, hname⟩
    exact ⟨_, splitScheme_eq_some_iff.mpr ⟨letter, name, hletter, hname, rfl, hcs⟩⟩

instance (cs : List Char) : Decidable (BeginsWithScheme cs) :=
  decidable_of_iff _ isSome_splitScheme_iff

namespace BeginsWithScheme

/-- A scheme ends in slashes. -/
theorem slash_mem {cs : List Char} (h : BeginsWithScheme cs) : '/' ∈ cs := by
  obtain ⟨letter, name, rest, rfl, -, -⟩ := h
  simp

/-- A text that begins with a scheme does so whatever stands behind it. -/
theorem append {cs : List Char} (h : BeginsWithScheme cs) (tail : List Char) :
    BeginsWithScheme (cs ++ tail) := by
  obtain ⟨letter, name, rest, rfl, hletter, hname⟩ := h
  exact ⟨letter, name, rest ++ tail, List.append_assoc _ _ _, hletter, hname⟩

/-- **A scheme stands in front of the last colon that no slash follows**: the colon of the scheme
itself is followed by two. -/
theorem of_append_colon {host tail : List Char} (h : BeginsWithScheme (host ++ ':' :: tail))
    (htail : '/' ∉ tail) : BeginsWithScheme host := by
  obtain ⟨letter, name, rest, heq, hletter, hname⟩ := h
  rcases List.append_eq_append_iff.mp heq with ⟨more, hscheme, hmore⟩ | ⟨more, hhost, -⟩
  · cases more with
    | nil => exact ⟨letter, name, [], by simpa using hscheme.symm, hletter, hname⟩
    | cons c more =>
      -- the scheme would reach past the colon, so its last slash would stand behind it
      obtain ⟨rfl, rfl⟩ : ':' = c ∧ tail = more ++ rest := by simpa using hmore
      have hlast : more.getLast?.getD ':' = '/' := by
        simpa [List.getLast?_append, List.getLast?_cons] using
          (congrArg List.getLast? hscheme).symm
      have hmem : '/' ∈ more := by
        cases hc : more.getLast? with
        | none => simp [hc] at hlast
        | some c =>
          obtain rfl : c = '/' := by simpa [hc] using hlast
          exact List.mem_of_getLast? hc
      exact absurd (List.mem_append_left rest hmem) htail
  · exact ⟨letter, name, more, hhost, hletter, hname⟩

end BeginsWithScheme

/-- A text that stays in an authority begins with no scheme, for a scheme ends in slashes. -/
theorem StaysInAuthority.not_beginsWithScheme {s : String} (h : StaysInAuthority s) :
    ¬BeginsWithScheme s.toList :=
  fun hs => absurd (h '/' hs.slash_mem) (by decide)

/-! ## Cutting an authority -/

/-- **Reading a port neither makes nor hides a scheme**: the host begins with one exactly when the
text did that it was read from. -/
theorem beginsWithScheme_splitPort_iff {cs : List Char} :
    BeginsWithScheme (splitPort cs).1 ↔ BeginsWithScheme cs := by
  cases hport : (splitPort cs).2 with
  | none => rw [splitPort_of_eq_none hport]
  | some p =>
    obtain ⟨ds, hcs, hds⟩ := splitPort_eq_some_iff.mp (Prod.ext rfl hport)
    have hslash : '/' ∉ ds := not_mem_of_readPort? hds (by decide)
    constructor
    · intro h
      rw [hcs]
      exact h.append _
    · intro h
      rw [hcs] at h
      exact h.of_append_colon hslash

/-- **Dropping user information brings a scheme to the front** of a text that begins with none
exactly when the user information ended right before one. -/
theorem beginsWithScheme_dropUserInfo_iff {cs : List Char} (h : ¬BeginsWithScheme cs) :
    BeginsWithScheme (dropUserInfo cs) ↔ SchemeFollowsUserInfo cs := by
  unfold dropUserInfo SchemeFollowsUserInfo
  cases hs : splitLast '@' cs with
  | none =>
    have hat : '@' ∉ cs := splitLast_eq_none_iff.mp hs
    refine iff_of_false h ?_
    rintro ⟨info, rest, rfl, -⟩
    exact hat (by simp)
  | some r =>
    obtain ⟨info, rest⟩ := r
    obtain ⟨rfl, hrest⟩ := splitLast_eq_some_iff.mp hs
    constructor
    · intro hb
      exact ⟨info, rest, rfl, hrest, hb⟩
    · rintro ⟨info', rest', heq, hrest', hb⟩
      rw [heq, splitLast_append info' hrest'] at hs
      obtain ⟨-, rfl⟩ : info' = info ∧ rest' = rest := by simpa using hs
      exact hb

/-- The host of an authority begins with a scheme exactly when the text does that follows the user
information. -/
theorem Authority.beginsWithScheme_host_iff {raw : String} (h : ¬BeginsWithScheme raw.toList) :
    BeginsWithScheme (parse raw).host.toList ↔ SchemeFollowsUserInfo raw.toList := by
  rw [parse, String.toList_ofList, beginsWithScheme_splitPort_iff,
    beginsWithScheme_dropUserInfo_iff h]

/-! ## Targets -/

/-- A text that is neither a path nor an asterisk and begins with no scheme is an authority. -/
theorem RequestTarget.parse_of_not_beginsWithScheme {raw : String} (hpath : raw.toList.head? ≠ some '/')
    (hasterisk : raw ≠ "*") (hscheme : ¬BeginsWithScheme raw.toList) :
    parse raw = ⟨some (.parse raw), ""⟩ := by
  have hnone : splitScheme raw.toList = none := by
    rw [← Option.not_isSome_iff_eq_none, isSome_splitScheme_iff]
    exact hscheme
  unfold parse
  split
  · rename_i cs hcs
    simp [hcs] at hpath
  · rename_i hcs
    exact absurd (String.toList_inj.mp hcs) hasterisk
  · rw [hnone]

/-- A target that names an authority without a scheme before it is an authority as a whole. -/
theorem RequestTarget.authority_of_not_beginsWithScheme {raw : String} {a : Authority}
    (ha : (parse raw).authority = some a) (h : ¬BeginsWithScheme raw.toList) :
    a = Authority.parse raw := by
  by_cases hother : raw.toList.head? = some '/' ∨ raw = "*"
  · rw [authority_parse_eq_none hother] at ha
    simp at ha
  · obtain ⟨hpath, hasterisk⟩ := not_or.mp hother
    rw [parse_of_not_beginsWithScheme hpath hasterisk h] at ha
    exact (Option.some_inj.mp ha).symm

/-- **The authority that a target names begins with a scheme just when dropping user information
brings one to its front**: the target itself begins with none, one stands right behind its last at
sign, and the authority is for the default port, so that it is reduced to its host.

**Proof sketch.** An authority behind a scheme ends before the first slash, so neither its text nor
its host begins with a scheme. An authority that is the whole target is given as it stands, which
begins with no scheme, or reduced to its host. The port that is cut off holds no slash
(`beginsWithScheme_splitPort_iff`), so the host begins with a scheme just when what follows the
user information does. -/
theorem beginsWithScheme_requestAuthority_iff {raw : String} {a : Authority}
    (ha : (RequestTarget.parse raw).authority = some a) (headers : HeaderLookup) {t : StreamType}
    (ht : t ≠ .unix) (localPort : Option Nat) :
    ∃ s, requestAuthority (.parse raw) headers t localPort = some s ∧
      (BeginsWithScheme s.toList ↔
        ¬BeginsWithScheme raw.toList ∧ SchemeFollowsUserInfo raw.toList ∧
          a.port.or localPort = t.defaultPort) := by
  refine ⟨a.elide t localPort, requestAuthority_of_authority ha headers ht localPort, ?_⟩
  by_cases hscheme : BeginsWithScheme raw.toList
  · obtain ⟨⟨scheme, rest⟩, hsplit⟩ :=
      Option.isSome_iff_exists.mp (isSome_splitScheme_iff.mpr hscheme)
    obtain ⟨a', ha', hraw, hhost⟩ := RequestTarget.staysInAuthority_of_splitScheme hsplit
    obtain rfl : a' = a := Option.some_inj.mp (ha'.symm.trans ha)
    have hstays := Authority.staysInAuthority_elide hraw hhost t localPort
    exact iff_of_false hstays.not_beginsWithScheme (fun h => h.1 hscheme)
  · obtain rfl := RequestTarget.authority_of_not_beginsWithScheme ha hscheme
    rw [Authority.elide_eq _ ht]
    by_cases hport : (Authority.parse raw).port.or localPort = t.defaultPort
    · rw [if_pos hport, Authority.beginsWithScheme_host_iff hscheme]
      exact ⟨fun h => ⟨hscheme, h, hport⟩, fun h => h.2.1⟩
    · rw [if_neg hport]
      exact iff_of_false hscheme (fun h => hport h.2.2)

/-- On another port than the default one the user information stays, also before a scheme. -/
theorem beginsWithScheme_requestAuthority_port :
    (RequestTarget.parse "u@http://x:8080").authority =
        some ⟨"u@http://x:8080", "http://x", some 8080⟩ ∧
      StreamType.tcp ≠ .unix ∧
      ∃ s, requestAuthority (.parse "u@http://x:8080") (.ofRaw []) .tcp (some 80) = some s ∧
        ¬BeginsWithScheme s.toList := by
  have ha : (RequestTarget.parse "u@http://x:8080").authority =
      some ⟨"u@http://x:8080", "http://x", some 8080⟩ := by decide +kernel
  have ht : StreamType.tcp ≠ .unix := by decide
  obtain ⟨s, hs, hiff⟩ := beginsWithScheme_requestAuthority_iff ha (.ofRaw []) ht (some 80)
  exact ⟨ha, ht, s, hs, fun h => absurd (hiff.mp h).2.2 (by decide)⟩

/-- On the default port the user information is dropped, and the scheme behind it comes to the
front. -/
theorem beginsWithScheme_requestAuthority_userInfo :
    (RequestTarget.parse "u@http://x:80").authority =
        some ⟨"u@http://x:80", "http://x", some 80⟩ ∧
      requestAuthority (.parse "u@http://x:80") (.ofRaw []) .tcp (some 8080) = some "http://x" ∧
      BeginsWithScheme "http://x".toList := by
  decide +kernel

end TargetUri
