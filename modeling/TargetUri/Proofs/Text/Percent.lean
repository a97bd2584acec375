import TargetUri.Text.Percent

set_option autoImplicit false

/-!
# Percent tokens and their grammar

A token holds ASCII letters, digits and percent signs and nothing else, so it can stand wherever a
URL gives a meaning to other characters. More precisely it is a sequence of letters, digits and
triples of other bytes; every such sequence is the token of exactly one byte sequence, which the
strict reader finds again.

## Main definitions

* `TargetUri.Percent.IsToken` — the grammar of tokens.

## Main results

* `TargetUri.Percent.isAlphanumeric_or_eq_of_mem_encode` — the characters of a token.
* `TargetUri.Percent.isToken_encode` — what is written is a token.
* `TargetUri.Percent.decode?_eq_some_iff` — the strict reader accepts what is written and nothing
  else.
* `TargetUri.Percent.exists_encode_of_isToken` — every token is written for some bytes.
-/

namespace TargetUri.Percent

/-- The code of a letter or digit is below the first that is no ASCII code. -/
theorem lt_of_isAlphanumeric {n : Nat} (h : isAlphanumeric n) : n < 0x80 := by
  simp only [isAlphanumeric, Bool.or_eq_true, Bool.and_eq_true, decide_eq_true_eq] at h
  omega

/-- The code of an ASCII letter or digit is the code of its character. -/
theorem toNat_ofNat_of_isAlphanumeric {n : Nat} (h : isAlphanumeric n) :
    (Char.ofNat n).toNat = n := by
  have all : ∀ m : Fin 0x80, (Char.ofNat m).toNat = m.val := by decide
  exact all ⟨n, lt_of_isAlphanumeric h⟩

/-! ## The grammar -/

/-- The grammar of tokens: ASCII letters and digits, and triples of a percent sign and two
upper-case hexadecimal digits that do not spell the code of a letter or digit. -/
inductive IsToken : List Char → Prop
  /-- the token of no bytes -/
  | nil : IsToken []
  /-- a letter or digit -/
  | plain {c : Char} {cs : List Char} : isAlphanumeric c.toNat → IsToken cs → IsToken (c :: cs)
  /-- a triple -/
  | triple {h l : Char} {hi lo : Nat} {cs : List Char} : Hex.upperValue? h = some hi →
      Hex.upperValue? l = some lo → isAlphanumeric (hi * 16 + lo) = false → IsToken cs →
      IsToken ('%' :: h :: l :: cs)

/-- An upper-case digit is the one that is written for its value. -/
theorem upperDigit_of_upperValue? {c : Char} {n : Nat} (h : Hex.upperValue? c = some n) :
    Hex.upperDigit n = c ∧ n < 16 := by
  have hc : Char.ofNat c.toNat = c := Char.ofNat_toNat c
  unfold Hex.upperValue? at h
  unfold Hex.upperDigit
  simp only [Bool.and_eq_true, decide_eq_true_eq] at h
  split at h
  · obtain rfl := Option.some_inj.mp h
    rw [if_pos (by omega), show 0x30 + (c.toNat - 0x30) = c.toNat by omega]
    exact ⟨hc, by omega⟩
  · split at h
    · obtain rfl := Option.some_inj.mp h
      rw [if_neg (by omega), show 0x37 + (c.toNat - 0x37) = c.toNat by omega]
      exact ⟨hc, by omega⟩
    · simp at h

/-- A digit that is no small letter is an ASCII letter or digit. -/
theorem isAlphanumeric_of_upperValue? {c : Char} {n : Nat} (h : Hex.upperValue? c = some n) :
    isAlphanumeric c.toNat := by
  have all : ∀ m : Fin 16, isAlphanumeric (Hex.upperDigit m).toNat := by decide
  obtain ⟨rfl, hn⟩ := upperDigit_of_upperValue? h
  exact all ⟨n, hn⟩

/-- A letter or digit is written as itself. -/
theorem encodeByte_of_isAlphanumeric {c : Char} (h : isAlphanumeric c.toNat) :
    encodeByte (UInt8.ofNat c.toNat) = [c] := by
  have hlt := lt_of_isAlphanumeric h
  have hbyte : (UInt8.ofNat c.toNat).toNat = c.toNat :=
    UInt8.toNat_ofNat_of_lt' (show c.toNat < 256 by omega)
  rw [encodeByte, hbyte, if_pos h, Char.ofNat_toNat]

/-- Any other byte is written as the triple of its digits. -/
theorem encodeByte_of_triple {h l : Char} {hi lo : Nat} (hh : Hex.upperValue? h = some hi)
    (hl : Hex.upperValue? l = some lo) (hplain : isAlphanumeric (hi * 16 + lo) = false) :
    encodeByte (UInt8.ofNat (hi * 16 + lo)) = ['%', h, l] := by
  obtain ⟨rfl, hhi⟩ := upperDigit_of_upperValue? hh
  obtain ⟨rfl, hlo⟩ := upperDigit_of_upperValue? hl
  have hbyte : (UInt8.ofNat (hi * 16 + lo)).toNat = hi * 16 + lo :=
    UInt8.toNat_ofNat_of_lt' (show hi * 16 + lo < 256 by omega)
  rw [encodeByte, hbyte, if_neg (by simp [hplain]), triple, hbyte,
    show (hi * 16 + lo) / 16 = hi by omega, show (hi * 16 + lo) % 16 = lo by omega]

/-- **The two ways in which one byte is written**: as the letter or digit that it is the code of, or
as a triple of its digits. -/
theorem encodeByte_cases (b : UInt8) :
    (∃ c, isAlphanumeric c.toNat ∧ encodeByte b = [c] ∧ UInt8.ofNat c.toNat = b) ∨
      ∃ h l hi lo, Hex.upperValue? h = some hi ∧ Hex.upperValue? l = some lo ∧
        isAlphanumeric (hi * 16 + lo) = false ∧ encodeByte b = ['%', h, l] ∧
        UInt8.ofNat (hi * 16 + lo) = b := by
  have hb : b.toNat < 256 := b.toNat_lt
  unfold encodeByte
  split
  · rename_i ha
    have hc := toNat_ofNat_of_isAlphanumeric ha
    exact Or.inl ⟨_, by rwa [hc], rfl, by rw [hc, UInt8.ofNat_toNat]⟩
  · rename_i ha
    have hvalue : b.toNat / 16 * 16 + b.toNat % 16 = b.toNat := by omega
    exact Or.inr ⟨_, _, _, _, Hex.upperValue?_upperDigit (by omega),
      Hex.upperValue?_upperDigit (by omega), by simpa [hvalue] using ha, rfl,
      by rw [hvalue, UInt8.ofNat_toNat]⟩

/-- **What is written is a token.** -/
theorem isToken_encode (bs : Bytes) : IsToken (encode bs).toList := by
  rw [encode, String.toList_ofList]
  induction bs with
  | nil => exact .nil
  | cons b bs ih =>
    rw [List.flatMap_cons]
    rcases encodeByte_cases b with ⟨c, hc, hb, -⟩ | ⟨h, l, hi, lo, hh, hl, hplain, hb, -⟩
    · rw [hb]
      exact .plain hc ih
    · rw [hb]
      exact .triple hh hl hplain ih

/-- The characters of the grammar are letters, digits and percent signs: the digits of a triple are
letters or digits too. -/
theorem IsToken.isAlphanumeric_or_eq {cs : List Char} (h : IsToken cs) {c : Char} (hc : c ∈ cs) :
    isAlphanumeric c.toNat ∨ c = '%' := by
  induction h with
  | nil => simp at hc
  | plain ha _ ih =>
    rcases List.mem_cons.mp hc with rfl | hc
    · exact Or.inl ha
    · exact ih hc
  | triple hh hl _ _ ih =>
    simp only [List.mem_cons] at hc
    rcases hc with rfl | rfl | rfl | hc
    · exact Or.inr rfl
    · exact Or.inl (isAlphanumeric_of_upperValue? hh)
    · exact Or.inl (isAlphanumeric_of_upperValue? hl)
    · exact ih hc

/-- **The characters of a token** are ASCII letters, digits and percent signs. -/
theorem isAlphanumeric_or_eq_of_mem_encode {bs : Bytes} {c : Char} (h : c ∈ (encode bs).toList) :
    isAlphanumeric c.toNat ∨ c = '%' :=
  (isToken_encode bs).isAlphanumeric_or_eq h

/-- **Every token is written for some bytes.** -/
theorem exists_encode_of_isToken {cs : List Char} (h : IsToken cs) :
    ∃ bs, (encode bs).toList = cs := by
  simp only [encode, String.toList_ofList]
  induction h with
  | nil => exact ⟨[], rfl⟩
  | @plain c cs hc _ ih =>
    obtain ⟨bs, hbs⟩ := ih
    refine ⟨UInt8.ofNat c.toNat :: bs, ?_⟩
    rw [List.flatMap_cons, encodeByte_of_isAlphanumeric hc, hbs]
    rfl
  | @triple h l hi lo cs hh hl hplain _ ih =>
    obtain ⟨bs, hbs⟩ := ih
    refine ⟨UInt8.ofNat (hi * 16 + lo) :: bs, ?_⟩
    rw [List.flatMap_cons, encodeByte_of_triple hh hl hplain, hbs]
    rfl

/-! ## The strict reader -/

/-- A letter or digit is read as its code. -/
theorem decode?_plain {c : Char} (h : isAlphanumeric c.toNat) (cs : List Char) :
    decode? (c :: cs) = (decode? cs).map (UInt8.ofNat c.toNat :: ·) := by
  rw [decode?, if_pos h]
  rintro _ _ _ rfl _
  exact absurd h (by decide)

/-- A triple is read as the byte of its digits. -/
theorem decode?_triple {h l : Char} {hi lo : Nat} (hh : Hex.upperValue? h = some hi)
    (hl : Hex.upperValue? l = some lo) (hplain : isAlphanumeric (hi * 16 + lo) = false)
    (cs : List Char) :
    decode? ('%' :: h :: l :: cs) = (decode? cs).map (UInt8.ofNat (hi * 16 + lo) :: ·) := by
  rw [decode?, hh, hl]
  simp only [Option.bind_eq_bind, Option.bind_some, hplain]
  cases decode? cs <;> rfl

/-- What is written reads back. -/
theorem decode?_encode (bs : Bytes) : decode? (encode bs).toList = some bs := by
  rw [encode, String.toList_ofList]
  induction bs with
  | nil => rfl
  | cons b bs ih =>
    rw [List.flatMap_cons]
    rcases encodeByte_cases b with ⟨c, hc, hb, hcode⟩ | ⟨h, l, hi, lo, hh, hl, hplain, hb, hcode⟩
    · rw [hb, List.singleton_append, decode?_plain hc, ih, hcode]
      rfl
    · rw [hb, List.cons_append, List.cons_append, List.singleton_append,
        decode?_triple hh hl hplain, ih, hcode]
      rfl

/-- What the strict reader accepts is a token. -/
theorem isToken_of_decode? {cs : List Char} {bs : Bytes} (h : decode? cs = some bs) :
    IsToken cs := by
  fun_induction decode? cs generalizing bs with
  | case1 => exact .nil
  | case2 high low cs ih =>
    simp only [Option.bind_eq_bind, Option.bind_eq_some_iff] at h
    obtain ⟨hi, hh, lo, hl, h⟩ := h
    split at h
    · simp at h
    · rename_i hplain
      obtain ⟨bs', hcs, -⟩ := Option.bind_eq_some_iff.mp h
      exact .triple hh hl (by simpa using hplain) (ih hcs)
  | case3 c cs hpercent hc ih =>
    obtain ⟨bs', hcs, -⟩ := Option.map_eq_some_iff.mp h
    exact .plain hc (ih hcs)
  | case4 => simp at h

/-- **The strict reader accepts what is written and nothing else.** -/
theorem decode?_eq_some_iff {cs : List Char} {bs : Bytes} :
    decode? cs = some bs ↔ (encode bs).toList = cs := by
  constructor
  · intro h
    obtain ⟨bs', rfl⟩ := exists_encode_of_isToken (isToken_of_decode? h)
    rw [decode?_encode, Option.some_inj] at h
    rw [h]
  · rintro rfl
    exact decode?_encode bs

end TargetUri.Percent
