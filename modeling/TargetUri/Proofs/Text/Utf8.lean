import TargetUri.Text.Utf8

set_option autoImplicit false

/-!
# Text as UTF-8 and back

The bytes of a text are read as that text, by both readers: no part of them is taken for one that
starts no character. The strict reader accepts no other bytes. Both facts rest on one on characters:
the bytes of a character are a lead byte and the continuation bytes that it announces, and one step
reads just such a sequence.

## Main definitions

* `TargetUri.Utf8.leadingBits`, `TargetUri.Utf8.continuationBytes` — the bits that the lead byte of
  a code point carries and the continuation bytes after it.
* `TargetUri.Utf8.Lead.Announces` — the code points that a lead byte announces.

## Main results

* `TargetUri.Utf8.takeChar_encodeChar` — one step reads one character and no byte after it.
* `TargetUri.Utf8.eq_append_of_takeChar` — what one step reads are the bytes of the character.
* `TargetUri.Utf8.decodeLossy_encode`, `TargetUri.Utf8.decode?_encode` — the bytes of a text are
  read as the text.
* `TargetUri.Utf8.decode?_eq_some_iff`, `TargetUri.Utf8.decode?_eq_none_iff` — the strict reader
  accepts the bytes of texts and nothing else.
-/

namespace TargetUri.Utf8

/-! ## Continuation bytes -/

/-- The bits of a code point before those of its last `count` continuation bytes. -/
def leadingBits : (count v : Nat) → Nat
  | 0, v => v
  | count + 1, v => leadingBits count v / 64

@[simp] theorem leadingBits_zero (v : Nat) : leadingBits 0 v = v := rfl

@[simp] theorem leadingBits_one (v : Nat) : leadingBits 1 v = v / 64 := rfl

@[simp] theorem leadingBits_two (v : Nat) : leadingBits 2 v = v / 4096 :=
  Nat.div_div_eq_div_mul v 64 64

@[simp] theorem leadingBits_three (v : Nat) : leadingBits 3 v = v / 262144 := by
  rw [leadingBits, leadingBits_two, Nat.div_div_eq_div_mul]

/-- The last `count` continuation bytes of the code point `v`, six bits in each. -/
def continuationBytes : (count v : Nat) → Bytes
  | 0, _ => []
  | count + 1, v => UInt8.ofNat (leadingBits count v % 64 + 0x80) :: continuationBytes count v

/-- The first of the continuation bytes of a code point, if there is one, is in a range. -/
def FirstWithin (count low high v : Nat) : Prop :=
  count ≠ 0 →
    low ≤ leadingBits (count - 1) v % 64 + 0x80 ∧ leadingBits (count - 1) v % 64 + 0x80 ≤ high

/-- The first continuation byte is always one of `80` to `BF`. -/
theorem firstWithin_all (count v : Nat) : FirstWithin count 0x80 0xBF v := by
  intro _
  omega

/-- Leading bits followed by the six bits of one more continuation byte. -/
theorem leadingBits_eq (count v : Nat) :
    leadingBits count v = leadingBits (count + 1) v * 64 + leadingBits count v % 64 := by
  rw [leadingBits]
  omega

/-- **The continuation bytes of a code point are read as the code point**, and no byte after
them. -/
theorem continuation_append {count low high v : Nat} (h : FirstWithin count low high v)
    (bs : Bytes) :
    continuation count low high (leadingBits count v) (continuationBytes count v ++ bs) =
      (some v, bs) := by
  induction count generalizing low high with
  | zero => simp [continuation, continuationBytes]
  | succ count ih =>
    have hbyte : (UInt8.ofNat (leadingBits count v % 64 + 0x80)).toNat =
        leadingBits count v % 64 + 0x80 :=
      UInt8.toNat_ofNat_of_lt' (show leadingBits count v % 64 + 0x80 < 256 by omega)
    have hrange := h (Nat.succ_ne_zero count)
    rw [Nat.add_sub_cancel] at hrange
    rw [continuationBytes, List.cons_append, continuation, hbyte, if_pos hrange,
      Nat.add_sub_cancel, ← leadingBits_eq, ih (firstWithin_all count v)]

/-- **Continuation bytes that are read are those of the code point that they spell.** -/
theorem continuation_eq_some {count low high bits v : Nat} {bs rest : Bytes} (hlow : 0x80 ≤ low)
    (hhigh : high ≤ 0xBF) (h : continuation count low high bits bs = (some v, rest)) :
    bs = continuationBytes count v ++ rest ∧ leadingBits count v = bits ∧
      FirstWithin count low high v := by
  induction count generalizing low high bits bs with
  | zero =>
    obtain ⟨rfl, rfl⟩ : bits = v ∧ bs = rest := by simpa [continuation] using h
    simp [continuationBytes, FirstWithin]
  | succ count ih =>
    cases bs with
    | nil => simp [continuation] at h
    | cons b bs =>
      rw [continuation] at h
      split at h
      · rename_i hrange
        obtain ⟨rfl, hbits, -⟩ := ih (by decide) (by decide) h
        have hbyte : leadingBits count v % 64 + 0x80 = b.toNat := by omega
        refine ⟨?_, ?_, ?_⟩
        · rw [continuationBytes, hbyte, UInt8.ofNat_toNat, List.cons_append]
        · rw [leadingBits, hbits]
          omega
        · intro _
          rw [Nat.add_sub_cancel, hbyte]
          exact hrange
      · simp at h

/-! ## Lead bytes -/

/-- A lead byte announces the code points that begin with its bits and have a first continuation
byte in its range. -/
structure Lead.Announces (l : Lead) (v : Nat) : Prop where
  /-- the code point begins with the bits of the lead byte -/
  bits : leadingBits l.count v = l.bits
  /-- the first continuation byte is in the range of the lead byte -/
  first : FirstWithin l.count l.low l.high v

/-- The lead byte of two announces five bits. -/
theorem lead?_two {x : Nat} (hlow : 2 ≤ x) (h : x < 32) :
    lead? (UInt8.ofNat (x + 0xC0)) = some ⟨1, 0x80, 0xBF, x⟩ := by
  have all : ∀ y : Fin 32, 2 ≤ y.val →
      lead? (UInt8.ofNat (y.val + 0xC0)) = some ⟨1, 0x80, 0xBF, y.val⟩ := by decide
  exact all ⟨x, h⟩ hlow

/-- The lead byte of three announces four bits, and keeps shorter characters and surrogates out. -/
theorem lead?_three {x : Nat} (h : x < 16) :
    lead? (UInt8.ofNat (x + 0xE0)) =
      some ⟨2, if x = 0 then 0xA0 else 0x80, if x = 13 then 0x9F else 0xBF, x⟩ := by
  have all : ∀ y : Fin 16, lead? (UInt8.ofNat (y.val + 0xE0)) =
      some ⟨2, if y.val = 0 then 0xA0 else 0x80, if y.val = 13 then 0x9F else 0xBF, y.val⟩ := by
    decide
  exact all ⟨x, h⟩

/-- The lead byte of four announces three bits, and keeps shorter characters and values past the
last code point out. -/
theorem lead?_four {x : Nat} (h : x < 5) :
    lead? (UInt8.ofNat (x + 0xF0)) =
      some ⟨3, if x = 0 then 0x90 else 0x80, if x = 4 then 0x8F else 0xBF, x⟩ := by
  have all : ∀ y : Fin 5, lead? (UInt8.ofNat (y.val + 0xF0)) =
      some ⟨3, if y.val = 0 then 0x90 else 0x80, if y.val = 4 then 0x8F else 0xBF, y.val⟩ := by
    decide
  exact all ⟨x, h⟩

/-- **There are no other lead bytes** than those of one, two, three and four. -/
theorem lead?_cases {b : UInt8} {l : Lead} (h : lead? b = some l) :
    (∃ x < 0x80, b = UInt8.ofNat x ∧ l = ⟨0, 0x80, 0xBF, x⟩) ∨
      (∃ x < 32, 2 ≤ x ∧ b = UInt8.ofNat (x + 0xC0) ∧ l = ⟨1, 0x80, 0xBF, x⟩) ∨
      (∃ x < 16, b = UInt8.ofNat (x + 0xE0) ∧
        l = ⟨2, if x = 0 then 0xA0 else 0x80, if x = 13 then 0x9F else 0xBF, x⟩) ∨
      ∃ x < 5, b = UInt8.ofNat (x + 0xF0) ∧
        l = ⟨3, if x = 0 then 0x90 else 0x80, if x = 4 then 0x8F else 0xBF, x⟩ := by
  obtain ⟨n, hn, rfl⟩ : ∃ n < 256, b = UInt8.ofNat n := ⟨b.toNat, b.toNat_lt, by simp⟩
  have hbyte : (UInt8.ofNat n).toNat = n := UInt8.toNat_ofNat_of_lt' hn
  by_cases h1 : n < 0x80
  · simp only [lead?, hbyte, if_pos h1, Option.some_inj] at h
    exact Or.inl ⟨n, h1, rfl, h.symm⟩
  by_cases h2 : 0xC2 ≤ n ∧ n < 0xE0
  · obtain ⟨x, rfl⟩ : ∃ x, n = x + 0xC0 := ⟨n - 0xC0, by omega⟩
    rw [lead?_two (by omega) (by omega), Option.some_inj] at h
    exact Or.inr (Or.inl ⟨x, by omega, by omega, rfl, h.symm⟩)
  by_cases h3 : 0xE0 ≤ n ∧ n < 0xF0
  · obtain ⟨x, rfl⟩ : ∃ x, n = x + 0xE0 := ⟨n - 0xE0, by omega⟩
    rw [lead?_three (by omega), Option.some_inj] at h
    exact Or.inr (Or.inr (Or.inl ⟨x, by omega, rfl, h.symm⟩))
  by_cases h4 : 0xF0 ≤ n ∧ n < 0xF5
  · obtain ⟨x, rfl⟩ : ∃ x, n = x + 0xF0 := ⟨n - 0xF0, by omega⟩
    rw [lead?_four (by omega), Option.some_inj] at h
    exact Or.inr (Or.inr (Or.inr ⟨x, by omega, rfl, h.symm⟩))
  · -- the bytes left over are those that start no character
    simp only [lead?, hbyte, if_neg h1] at h
    split at h
    · simp at h
    · rw [if_neg (by omega), if_neg (by omega), if_neg (by omega)] at h
      simp at h

/-- The first continuation byte that a lead byte allows is a continuation byte. -/
theorem range_of_lead? {b : UInt8} {l : Lead} (hl : lead? b = some l) :
    0x80 ≤ l.low ∧ l.high ≤ 0xBF := by
  rcases lead?_cases hl with
    ⟨x, -, -, rfl⟩ | ⟨x, -, -, -, rfl⟩ | ⟨x, -, -, rfl⟩ | ⟨x, -, -, rfl⟩
  · simp
  · simp
  · constructor <;> dsimp only <;> split <;> omega
  · constructor <;> dsimp only <;> split <;> omega

/-! ## One character -/

/-- The code point of a character is no surrogate and not past the last one. -/
theorem toNat_lt_or_lt (c : Char) : c.toNat < 0xD800 ∨ 0xDFFF < c.toNat ∧ c.toNat < 0x110000 :=
  c.valid

/-- A code point that is no surrogate and not past the last one is that of its character. -/
theorem toNat_ofNat {v : Nat} (h : v < 0xD800 ∨ 0xDFFF < v ∧ v < 0x110000) :
    (Char.ofNat v).toNat = v := by
  have hvalid : v.isValidChar := h
  rw [Char.ofNat, dif_pos hvalid]
  rfl

/-- **A code point that a lead byte announces is that of a character, and the lead byte and the
continuation bytes are those of the character.**

**Proof sketch.** By the number of bytes. The ranges of a lead byte and of the byte after it are
those of the code points that need as many bytes and are no surrogates. -/
theorem encodeChar_of_announces {b : UInt8} {l : Lead} {v : Nat} (hl : lead? b = some l)
    (hv : l.Announces v) :
    String.utf8EncodeChar (Char.ofNat v) = b :: continuationBytes l.count v := by
  unfold String.utf8EncodeChar
  rw [show (Char.ofNat v).val.toNat = (Char.ofNat v).toNat from rfl]
  obtain ⟨hbits, hfirst⟩ := hv
  dsimp only
  rcases lead?_cases hl with
    ⟨x, hx, rfl, rfl⟩ | ⟨x, hx, hlow, rfl, rfl⟩ | ⟨x, hx, rfl, rfl⟩ | ⟨x, hx, rfl, rfl⟩
  · have hv : v = x := by simpa using hbits
    rw [toNat_ofNat (by omega), if_pos (by omega), hv]
    rfl
  · have hv : v / 64 = x := by simpa using hbits
    rw [toNat_ofNat (by omega), if_neg (by omega), if_pos (by omega),
      show v / 64 % 32 = x by omega]
    simp [continuationBytes]
  · have hv : v / 4096 = x := by simpa using hbits
    obtain ⟨hleast, hgreatest⟩ : (if x = 0 then 0xA0 else 0x80) ≤ v / 64 % 64 + 0x80 ∧
        v / 64 % 64 + 0x80 ≤ if x = 13 then 0x9F else 0xBF := by simpa [FirstWithin] using hfirst
    have hlow : 0x800 ≤ v := by split at hleast <;> omega
    have hvalid : v < 0xD800 ∨ 0xDFFF < v ∧ v < 0x110000 := by split at hgreatest <;> omega
    rw [toNat_ofNat hvalid, if_neg (by omega), if_neg (by omega), if_pos (by omega),
      show v / 4096 % 16 = x by omega]
    simp [continuationBytes]
  · have hv : v / 262144 = x := by simpa using hbits
    obtain ⟨hleast, hgreatest⟩ : (if x = 0 then 0x90 else 0x80) ≤ v / 4096 % 64 + 0x80 ∧
        v / 4096 % 64 + 0x80 ≤ if x = 4 then 0x8F else 0xBF := by simpa [FirstWithin] using hfirst
    have hlow : 0x10000 ≤ v := by split at hleast <;> omega
    have hhigh : v < 0x110000 := by split at hgreatest <;> omega
    rw [toNat_ofNat (by omega), if_neg (by omega), if_neg (by omega), if_neg (by omega),
      show v / 262144 % 8 = x by omega]
    simp [continuationBytes]

/-- Every character has a lead byte that announces it. -/
theorem exists_announces (c : Char) : ∃ b l, lead? b = some l ∧ l.Announces c.toNat := by
  have hc := toNat_lt_or_lt c
  generalize c.toNat = v at hc
  by_cases h1 : v < 0x80
  · have hbyte : (UInt8.ofNat v).toNat = v := UInt8.toNat_ofNat_of_lt' (show v < 256 by omega)
    refine ⟨UInt8.ofNat v, ⟨0, 0x80, 0xBF, v⟩, ?_, ⟨by simp, by simp [FirstWithin]⟩⟩
    simp only [lead?, hbyte, if_pos h1]
  by_cases h2 : v < 0x800
  · refine ⟨_, _, lead?_two (x := v / 64) (by omega) (by omega), ⟨by simp, ?_⟩⟩
    exact firstWithin_all 1 v
  by_cases h3 : v < 0x10000
  · refine ⟨_, _, lead?_three (x := v / 4096) (by omega), ⟨by simp, ?_⟩⟩
    intro _
    simp only [Nat.reduceSub, leadingBits_one]
    constructor <;> split <;> omega
  · refine ⟨_, _, lead?_four (x := v / 262144) (by omega), ⟨by simp, ?_⟩⟩
    intro _
    simp only [Nat.reduceSub, leadingBits_two]
    constructor <;> split <;> omega

/-- **One step reads one character.** The bytes of a character are a lead byte and others after
it, and reading them leaves what follows. -/
theorem takeChar_encodeChar (c : Char) :
    ∃ b tail, String.utf8EncodeChar c = b :: tail ∧
      ∀ bs, takeChar b (tail ++ bs) = (some c, bs) := by
  obtain ⟨b, l, hl, hc⟩ := exists_announces c
  have hbytes := encodeChar_of_announces hl hc
  rw [Char.ofNat_toNat] at hbytes
  refine ⟨b, _, hbytes, fun bs => ?_⟩
  have hread := continuation_append hc.first bs
  rw [hc.bits] at hread
  simp only [takeChar, hl, hread, Option.map_some, Char.ofNat_toNat]

/-- **What one step reads are the bytes of the character.** -/
theorem eq_append_of_takeChar {b : UInt8} {bs rest : Bytes} {c : Char}
    (h : takeChar b bs = (some c, rest)) : b :: bs = String.utf8EncodeChar c ++ rest := by
  unfold takeChar at h
  cases hl : lead? b with
  | none => simp [hl] at h
  | some l =>
    simp only [hl, Prod.mk.injEq, Option.map_eq_some_iff] at h
    obtain ⟨⟨v, hv, rfl⟩, hrest⟩ := h
    obtain ⟨hlow, hhigh⟩ := range_of_lead? hl
    obtain ⟨hbs, hbits, hfirst⟩ := continuation_eq_some hlow hhigh (Prod.ext hv hrest)
    rw [encodeChar_of_announces hl ⟨hbits, hfirst⟩, List.cons_append, ← hbs]

/-! ## Texts -/

/-- **The bytes of a text are read as the text.** -/
theorem decodeLossy_encode (s : String) : decodeLossy (encode s) = s.toList := by
  unfold encode
  induction s.toList with
  | nil => rw [List.flatMap_nil, decodeLossy]
  | cons c cs ih =>
    obtain ⟨b, tail, hbytes, htake⟩ := takeChar_encodeChar c
    rw [List.flatMap_cons, hbytes, List.cons_append, decodeLossy, htake, ih, Option.getD_some]

/-- The strict reader reads one character and goes on after it. -/
theorem decode?_encodeChar_append (c : Char) (bs : Bytes) :
    decode? (String.utf8EncodeChar c ++ bs) = (decode? bs).map (c :: ·) := by
  obtain ⟨b, tail, hbytes, htake⟩ := takeChar_encodeChar c
  rw [hbytes, List.cons_append, decode?, htake]

/-- The strict reader reads the bytes of a text as the text. -/
theorem decode?_encode (s : String) : decode? (encode s) = some s.toList := by
  unfold encode
  induction s.toList with
  | nil => rw [List.flatMap_nil, decode?]
  | cons c cs ih => rw [List.flatMap_cons, decode?_encodeChar_append, ih, Option.map_some]

/-- What the strict reader accepts are the bytes of the text that it reads. -/
theorem encode_of_decode? {bs : Bytes} {cs : List Char} (h : decode? bs = some cs) :
    encode (String.ofList cs) = bs := by
  rw [encode, String.toList_ofList]
  fun_induction decode? bs generalizing cs with
  | case1 =>
    obtain rfl : [] = cs := Option.some_inj.mp h
    rfl
  | case2 => simp at h
  | case3 b bs c hc ih =>
    obtain ⟨cs, hcs, rfl⟩ := Option.map_eq_some_iff.mp h
    rw [List.flatMap_cons, ih hcs]
    exact (eq_append_of_takeChar (Prod.ext hc rfl)).symm

/-- **The strict reader accepts the bytes of texts and nothing else.** -/
theorem decode?_eq_some_iff {bs : Bytes} {cs : List Char} :
    decode? bs = some cs ↔ encode (String.ofList cs) = bs := by
  constructor
  · exact encode_of_decode?
  · rintro rfl
    rw [decode?_encode, String.toList_ofList]

/-- Bytes are well-formed UTF-8 when they are those of some text. -/
theorem isValidUTF8_iff {bs : Bytes} :
    bs.toByteArray.IsValidUTF8 ↔ ∃ s : String, encode s = bs := by
  constructor
  · rintro ⟨cs, hcs⟩
    refine ⟨String.ofList cs, ?_⟩
    have hdata := congrArg (fun b : ByteArray => b.data.toList) hcs
    simp only [List.utf8Encode, List.toList_data_toByteArray] at hdata
    rw [encode, String.toList_ofList, hdata]
  · rintro ⟨s, rfl⟩
    exact ⟨s.toList, rfl⟩

/-- The strict reader refuses just the bytes that are not well-formed. -/
theorem decode?_eq_none_iff {bs : Bytes} :
    decode? bs = none ↔ ¬bs.toByteArray.IsValidUTF8 := by
  rw [isValidUTF8_iff, ← Option.not_isSome_iff_eq_none, Option.isSome_iff_exists]
  refine not_congr ⟨?_, ?_⟩
  · rintro ⟨cs, h⟩
    exact ⟨_, decode?_eq_some_iff.mp h⟩
  · rintro ⟨s, rfl⟩
    exact ⟨_, decode?_encode s⟩

end TargetUri.Utf8
