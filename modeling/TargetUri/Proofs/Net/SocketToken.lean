import TargetUri.Net.Address
import TargetUri.Proofs.Text.Percent
import TargetUri.Proofs.Text.Utf8
import TargetUri.Url.Host

set_option autoImplicit false

/-!
# Socket files as host tokens

The host that names a listener on a socket file is one percent token made of its path. Reading the
token as the host of a URL is read gives back the bytes of the path, so listeners on paths with
different bytes have different hosts. A path that holds half of a character without the other half
has no bytes of its own: it has those of the path with the replacement character there, and shares a
host with it.

## Main results

* `TargetUri.Url.percentDecode_encode` — the bytes of a token, as a URL is read, are those that it
  was written for.
* `TargetUri.Utf8.encode_eq_toByteArray`, `TargetUri.Utf8.encode_inj` — the bytes of a text are its
  UTF-8 form, and no other text has them.
* `TargetUri.Percent.token_bijection` — percent tokens and byte sequences correspond one to one, and
  hosts of socket files with the bytes of their paths.
* `TargetUri.Percent.token_of_halves` — different paths without bytes of their own, and one host.
-/

namespace TargetUri

/-! ## Tokens in a URL -/

/-- A digit that is no small letter has one value, however small letters are read. -/
theorem Hex.value?_of_upperValue? {c : Char} {n : Nat} (h : upperValue? c = some n) :
    value? c = some n := by
  have hc : ¬(0x61 ≤ c.toNat && c.toNat ≤ 0x66) := by
    intro hc
    simp only [Bool.and_eq_true, decide_eq_true_eq] at hc
    unfold upperValue? at h
    rw [if_neg (by simp; omega), if_neg (by simp; omega)] at h
    simp at h
  rw [value?, if_neg hc, h]

namespace Url

/-- A letter or digit stands for its code. -/
theorem percentDecode_plain {c : Char} (h : Percent.isAlphanumeric c.toNat) (cs : List Char) :
    percentDecode (c :: cs) = UInt8.ofNat c.toNat :: percentDecode cs := by
  have hbytes : String.utf8EncodeChar c = [UInt8.ofNat c.toNat] := by
    have hlt : c.val.toNat ≤ 0x7F := Nat.le_of_lt_succ (Percent.lt_of_isAlphanumeric h)
    unfold String.utf8EncodeChar
    dsimp only
    rw [if_pos hlt]
    rfl
  rw [percentDecode, hbytes, List.singleton_append]
  rintro _ _ _ rfl _
  exact absurd h (by decide)

/-- A triple stands for the byte of its digits. -/
theorem percentDecode_triple {h l : Char} {hi lo : Nat} (hh : Hex.upperValue? h = some hi)
    (hl : Hex.upperValue? l = some lo) (cs : List Char) :
    percentDecode ('%' :: h :: l :: cs) = UInt8.ofNat (hi * 16 + lo) :: percentDecode cs := by
  rw [percentDecode, Hex.value?_of_upperValue? hh, Hex.value?_of_upperValue? hl]

/-- **The bytes of a token, as a URL is read, are those that it was written for.** -/
theorem percentDecode_encode (bs : Bytes) : percentDecode (Percent.encode bs).toList = bs := by
  rw [Percent.encode, String.toList_ofList]
  induction bs with
  | nil => rfl
  | cons b bs ih =>
    rw [List.flatMap_cons]
    rcases Percent.encodeByte_cases b with
      ⟨c, hc, hb, hcode⟩ | ⟨h, l, hi, lo, hh, hl, -, hb, hcode⟩
    · rw [hb, List.singleton_append, percentDecode_plain hc, ih, hcode]
    · rw [hb, List.cons_append, List.cons_append, List.singleton_append,
        percentDecode_triple hh hl, ih, hcode]

end Url

/-! ## Texts -/

namespace Utf8

/-- The bytes of a text are its UTF-8 form. -/
theorem encode_eq_toByteArray (s : String) : encode s = s.toByteArray.data.toList := by
  have h : s.toByteArray = s.toList.utf8Encode := by
    rw [← String.toByteArray_ofList, String.ofList_toList]
  rw [h, List.utf8Encode, List.toList_data_toByteArray, encode]

/-- Two texts with the same bytes are one. -/
theorem encode_inj {s s' : String} : encode s = encode s' ↔ s = s' := by
  constructor
  · intro h
    have hlist : s.toList = s'.toList := by
      rw [← decodeLossy_encode s, h, decodeLossy_encode]
    exact String.toList_inj.mp hlist
  · rintro rfl
    rfl

end Utf8

/-! ## The correspondence -/

namespace Percent

/-- Two byte sequences with the same token are one. -/
theorem encode_inj {bs bs' : Bytes} : encode bs = encode bs' ↔ bs = bs' := by
  constructor
  · intro h
    rw [← Url.percentDecode_encode bs, h, Url.percentDecode_encode]
  · rintro rfl
    rfl

/-- **Percent tokens and byte sequences correspond one to one**: what is written for bytes is a
token that reads back as those bytes, and a token is what is written for the bytes that it reads as.
Bytes are read here as in a URL; the strict reader reads tokens the same and refuses everything
else. The host of a socket file is what is written for the bytes of its path, those of the UTF-8
form of the text that takes its place where bytes are asked for. So two of them are equal just when
these texts are, and for paths that are texts themselves just when the paths are. -/
theorem token_bijection :
    (∀ bs : Bytes, IsToken (encode bs).toList ∧ Url.percentDecode (encode bs).toList = bs) ∧
      (∀ token : String, IsToken token.toList →
        encode (Url.percentDecode token.toList) = token) ∧
      (∀ (cs : List Char) (bs : Bytes),
        decode? cs = some bs ↔ IsToken cs ∧ Url.percentDecode cs = bs) ∧
      (∀ (t : StreamType) (path : WideString),
        (Address.unix (.text path)).fallbackHost t = encode (Utf8.encode path.repaired) ∧
        Url.percentDecode ((Address.unix (.text path)).fallbackHost t).toList =
          path.repaired.toByteArray.data.toList) ∧
      (∀ (t t' : StreamType) (path path' : WideString),
        (Address.unix (.text path)).fallbackHost t = (Address.unix (.text path')).fallbackHost t' ↔
          path.repaired = path'.repaired) ∧
      ∀ (t t' : StreamType) (path path' : String),
        (Address.unix (.text path)).fallbackHost t = (Address.unix (.text path')).fallbackHost t' ↔
          path = path' := by
  have htoken : ∀ cs : List Char, IsToken cs → (encode (Url.percentDecode cs)).toList = cs := by
    intro cs h
    obtain ⟨bs, rfl⟩ := exists_encode_of_isToken h
    rw [Url.percentDecode_encode]
  have hhost : ∀ (t : StreamType) (path : WideString),
      (Address.unix (.text path)).fallbackHost t = encode (Utf8.encode path.repaired) :=
    fun _ _ => rfl
  have hpaths : ∀ (t t' : StreamType) (path path' : WideString),
      (Address.unix (.text path)).fallbackHost t = (Address.unix (.text path')).fallbackHost t' ↔
        path.repaired = path'.repaired := by
    intro t t' path path'
    rw [hhost, hhost, encode_inj, Utf8.encode_inj]
  refine ⟨fun bs => ⟨isToken_encode bs, Url.percentDecode_encode bs⟩, ?_, ?_, ?_, hpaths,
    fun t t' path path' => hpaths t t' path path'⟩
  · intro token h
    exact String.toList_inj.mp (htoken _ h)
  · intro cs bs
    rw [decode?_eq_some_iff]
    constructor
    · rintro rfl
      exact ⟨isToken_encode bs, Url.percentDecode_encode bs⟩
    · rintro ⟨h, rfl⟩
      exact htoken cs h
  · intro t path
    rw [hhost, Url.percentDecode_encode, Utf8.encode_eq_toByteArray]
    exact ⟨rfl, rfl⟩

/-- Two paths that are half of a character each, and the host of both. -/
theorem token_of_halves :
    WideString.ofUnits [0xD800] ≠ WideString.ofUnits [0xD801] ∧
      (Address.unix (.text (.ofUnits [0xD800]))).fallbackHost .unix = "%EF%BF%BD" ∧
      (Address.unix (.text (.ofUnits [0xD801]))).fallbackHost .unix = "%EF%BF%BD" := by
  decide +kernel

end Percent

end TargetUri
