import TargetUri.Proofs.Net.SocketToken

set_option autoImplicit false

/-!
# Socket paths given as bytes

The path of a socket file may be given as text or as bytes. Bytes that are no text give the empty
host. Bytes that are a text give its host, with one exception: the reader takes a leading byte order
mark for a sign of the encoding and drops it, where the same path as text keeps its first character.

## Main definitions

* `TargetUri.Utf8.mark` — the byte order mark.

## Main results

* `TargetUri.Utf8.mark_isPrefix_encode_iff` — the texts whose bytes begin with the mark.
* `TargetUri.Address.fallbackHost_bytes` — the host of a path given as bytes.
-/

namespace TargetUri

/-! ## The byte order mark -/

namespace Utf8

/-- The byte order mark: the bytes of the character `U+FEFF`. -/
def mark : Bytes := [0xEF, 0xBB, 0xBF]

/-- The strict reader reads the mark as a character. -/
theorem decode?_mark_append (bs : Bytes) :
    decode? (mark ++ bs) = (decode? bs).map ('\uFEFF' :: ·) :=
  decode?_encodeChar_append '\uFEFF' bs

/-- The other reader drops the mark at the front. -/
theorem decodeUnmarked?_mark_append (bs : Bytes) : decodeUnmarked? (mark ++ bs) = decode? bs := rfl

/-- Bytes that do not begin with the mark are read alike by both readers. -/
theorem decodeUnmarked?_of_not_isPrefix {bs : Bytes} (h : ¬mark <+: bs) :
    decodeUnmarked? bs = decode? bs := by
  unfold decodeUnmarked?
  split
  · rename_i rest
    exact absurd ⟨rest, rfl⟩ h
  · rfl

/-- **The bytes of a text begin with the mark just when the text begins with `U+FEFF`.** -/
theorem mark_isPrefix_encode_iff {s : String} :
    mark <+: encode s ↔ s.toList.head? = some '\uFEFF' := by
  constructor
  · rintro ⟨rest, hrest⟩
    have hread : (decode? rest).map ('\uFEFF' :: ·) = some s.toList := by
      rw [← decode?_mark_append, hrest, decode?_encode]
    obtain ⟨cs, -, hcs⟩ := Option.map_eq_some_iff.mp hread
    rw [← hcs, List.head?_cons]
  · intro h
    obtain ⟨cs, hcs⟩ := List.head?_eq_some_iff.mp h
    refine ⟨cs.flatMap String.utf8EncodeChar, ?_⟩
    rw [encode, hcs, List.flatMap_cons]
    rfl

/-- Behind a mark, bytes are well-formed just when they are so alone. -/
theorem isValidUTF8_mark_append_iff {bs : Bytes} :
    (mark ++ bs).toByteArray.IsValidUTF8 ↔ bs.toByteArray.IsValidUTF8 := by
  apply Decidable.not_iff_not.mp
  rw [← decode?_eq_none_iff, ← decode?_eq_none_iff, decode?_mark_append, Option.map_eq_none_iff]

end Utf8

/-! ## Hosts -/

namespace Address

variable {t : StreamType} {bs : Bytes}

/-- The host of a path given as bytes is made of the text that they are read as. -/
theorem fallbackHost_of_decodeUnmarked? {cs : List Char} (h : Utf8.decodeUnmarked? bs = some cs) :
    (unix (.bytes bs)).fallbackHost t = Percent.encode (Utf8.encode (String.ofList cs)) := by
  rw [fallbackHost, SocketPath.toText, h, Option.map_some, Option.getD_some]

/-- Well-formed bytes without a leading mark are the host as they stand. -/
theorem fallbackHost_of_not_isPrefix (hvalid : bs.toByteArray.IsValidUTF8)
    (hmark : ¬Utf8.mark <+: bs) : (unix (.bytes bs)).fallbackHost t = Percent.encode bs := by
  obtain ⟨s, rfl⟩ := Utf8.isValidUTF8_iff.mp hvalid
  have hread : Utf8.decodeUnmarked? (Utf8.encode s) = some s.toList := by
    rw [Utf8.decodeUnmarked?_of_not_isPrefix hmark, Utf8.decode?_encode]
  rw [fallbackHost_of_decodeUnmarked? hread, String.ofList_toList]

/-- A leading mark is dropped, but no second one behind it. -/
theorem fallbackHost_mark_append (hvalid : bs.toByteArray.IsValidUTF8) :
    (unix (.bytes (Utf8.mark ++ bs))).fallbackHost t = Percent.encode bs := by
  obtain ⟨s, rfl⟩ := Utf8.isValidUTF8_iff.mp hvalid
  have hread : Utf8.decodeUnmarked? (Utf8.mark ++ Utf8.encode s) = some s.toList := by
    rw [Utf8.decodeUnmarked?_mark_append, Utf8.decode?_encode]
  rw [fallbackHost_of_decodeUnmarked? hread, String.ofList_toList]

/-- Bytes that are not well-formed have the empty host. -/
theorem fallbackHost_of_not_isValidUTF8 (h : ¬bs.toByteArray.IsValidUTF8) :
    (unix (.bytes bs)).fallbackHost t = "" := by
  have hread : Utf8.decodeUnmarked? bs = none := by
    by_cases hmark : Utf8.mark <+: bs
    · obtain ⟨rest, rfl⟩ := hmark
      rw [Utf8.decodeUnmarked?_mark_append, Utf8.decode?_eq_none_iff]
      exact fun hrest => h (Utf8.isValidUTF8_mark_append_iff.mpr hrest)
    · rw [Utf8.decodeUnmarked?_of_not_isPrefix hmark, Utf8.decode?_eq_none_iff]
      exact h
  rw [fallbackHost, SocketPath.toText, hread]
  rfl

/-- **The host of a path given as bytes.** It is the host of the same path given as text unless the
text begins with a byte order mark. Well-formed bytes are the host with every byte included unless
they begin with the mark, which is then left out; bytes that are not well-formed have the empty
host.

**Proof sketch.** Both readers accept the bytes of texts and nothing else, so that well-formed bytes
are encoded again as they were, less the mark. That the mark is missed follows from the host, which
spells its bytes. -/
theorem fallbackHost_bytes (t : StreamType) :
    (∀ path : WideString, (unix (.bytes (Utf8.encode path.repaired))).fallbackHost t =
        (unix (.text path)).fallbackHost t ↔ path.repaired.toList.head? ≠ some '\uFEFF') ∧
      (∀ bs : Bytes, bs.toByteArray.IsValidUTF8 →
        ((unix (.bytes bs)).fallbackHost t = Percent.encode bs ↔ ¬Utf8.mark <+: bs) ∧
        ∀ rest, bs = Utf8.mark ++ rest → (unix (.bytes bs)).fallbackHost t = Percent.encode rest) ∧
      ∀ bs : Bytes, ¬bs.toByteArray.IsValidUTF8 → (unix (.bytes bs)).fallbackHost t = "" := by
  have hvalid : ∀ bs : Bytes, bs.toByteArray.IsValidUTF8 →
      ((unix (.bytes bs)).fallbackHost t = Percent.encode bs ↔ ¬Utf8.mark <+: bs) := by
    intro bs hbs
    constructor
    · rintro hhost ⟨rest, rfl⟩
      rw [fallbackHost_mark_append (Utf8.isValidUTF8_mark_append_iff.mp hbs)] at hhost
      -- two tokens are equal only for the same bytes, and the mark is three of them
      have hlength := congrArg List.length (Percent.encode_inj.mp hhost)
      simp only [Utf8.mark, List.length_append, List.length_cons] at hlength
      omega
    · exact fallbackHost_of_not_isPrefix hbs
  refine ⟨?_, ?_, ?_⟩
  · intro path
    rw [Ne, ← Utf8.mark_isPrefix_encode_iff]
    exact hvalid _ (Utf8.isValidUTF8_iff.mpr ⟨path.repaired, rfl⟩)
  · intro bs hbs
    refine ⟨hvalid bs hbs, ?_⟩
    rintro rest rfl
    exact fallbackHost_mark_append (Utf8.isValidUTF8_mark_append_iff.mp hbs)
  · intro bs hbs
    exact fallbackHost_of_not_isValidUTF8 hbs

/-- A mark within a path is kept, and a surrogate makes a path that is no text. -/
theorem fallbackHost_bytes_mark_within :
    (unix (.bytes [0x2F, 0xEF, 0xBB, 0xBF])).fallbackHost .unix = "%2F%EF%BB%BF" ∧
      (unix (.bytes [0x2F, 0xED, 0xA0, 0x80])).fallbackHost .unix = "" := by
  obtain ⟨-, hvalid, hinvalid⟩ := fallbackHost_bytes .unix
  refine ⟨?_, ?_⟩
  · have hbs : ([0x2F, 0xEF, 0xBB, 0xBF] : Bytes).toByteArray.IsValidUTF8 :=
      Utf8.isValidUTF8_iff.mpr ⟨"/\uFEFF", by decide⟩
    exact ((hvalid _ hbs).1.mpr (by decide)).trans (by decide)
  · exact hinvalid _ (by decide +kernel)

/-- A mark at the front is lost, where the same path given as text keeps it. -/
theorem fallbackHost_bytes_mark_first :
    Utf8.encode "\uFEFF/a" = [0xEF, 0xBB, 0xBF, 0x2F, 0x61] ∧
      (unix (.bytes [0xEF, 0xBB, 0xBF, 0x2F, 0x61])).fallbackHost .unix = "%2Fa" ∧
      (unix (.text "\uFEFF/a")).fallbackHost .unix = "%EF%BB%BF%2Fa" := by
  decide +kernel

end Address

end TargetUri
