import TargetUri.Json.Read

set_option autoImplicit false

/-!
# Numbers in JSON text

A number that is written is read as itself: the sign, the digits and the power of ten come back,
whatever follows the number, as long as it cannot be taken for more of it. Only the sign of a zero
is lost. A whole number that a 64-bit binary value can hold is not changed by rounding.

## Main definitions

* `TargetUri.Json.EndsNumber` — texts that cannot go on with a number.

## Main results

* `TargetUri.Decimal.round_ofInt` — small whole numbers are kept.
* `TargetUri.Json.readNumber_render` — a number that is written reads back.
-/

namespace TargetUri

/-! ## Rounding -/

namespace Decimal

/-- A power with a natural exponent. -/
theorem power_natCast (base k : Nat) : power base (k : Int) = Nat.pow base k := by
  rw [power, Int.toNat_natCast]

/-- A power with an exponent that is not positive. -/
theorem power_neg_natCast (base k : Nat) : power base (-(k : Int)) = 1 := by
  rw [power, show (-(k : Int)).toNat = 0 by omega]
  rfl

/-- The power of two below a number is found at the first try when nothing is divided. -/
theorem binaryExponent_one {n : Nat} (hn : n ≠ 0) : binaryExponent n 1 = n.log2 := by
  have hk : (n.log2 : Int) - (1 : Nat).log2 = n.log2 := by
    rw [show (1 : Nat).log2 = 0 by decide]
    omega
  have hreach : 1 * power 2 n.log2 ≤ n * power 2 (-n.log2 : Int) := by
    rw [power_natCast, power_neg_natCast, Nat.one_mul, Nat.mul_one]
    exact Nat.log2_self_le hn
  simp only [binaryExponent, hk, decide_eq_true hreach, if_true]

/-- A number of at most 53 bits is shifted until it has 53, and nothing is rounded. -/
theorem nearest_one {n : Nat} (hn : n ≠ 0) (h : n < Nat.pow 2 53) :
    nearest n 1 = (n * Nat.pow 2 (52 - n.log2), -((52 - n.log2 : Nat) : Int)) := by
  have hlog : n.log2 < 53 := (Nat.log2_lt hn).mpr h
  have he : max (binaryExponent n 1 - 52) (-1074) = -((52 - n.log2 : Nat) : Int) := by
    rw [binaryExponent_one hn]
    omega
  simp only [nearest, he, Int.neg_neg, power_natCast, power_neg_natCast, Nat.mul_one, Nat.div_one,
    Nat.mod_one, Nat.mul_zero, Nat.not_lt_zero, decide_false, Bool.false_or]
  rfl

/-- What is kept of a number of at most 53 bits is the number. -/
theorem roundRatio_one (negative : Bool) {n : Nat} (hn : n ≠ 0) (h : n < Nat.pow 2 53) :
    roundRatio negative n 1 = .signed negative n := by
  have hfinite : ¬power 2 1024 ≤ n * Nat.pow 2 (52 - n.log2) := by
    have hshift : Nat.pow 2 (52 - n.log2) ≤ Nat.pow 2 52 :=
      Nat.pow_le_pow_right (by decide) (Nat.sub_le _ _)
    have hlt : n * Nat.pow 2 (52 - n.log2) < Nat.pow 2 53 * Nat.pow 2 52 :=
      Nat.mul_lt_mul_of_lt_of_le h hshift (by decide)
    have hbig : ∀ k : Nat, 105 ≤ k → Nat.pow 2 53 * Nat.pow 2 52 ≤ power 2 k := by
      intro k hk
      rw [power_natCast, show Nat.pow 2 53 * Nat.pow 2 52 = Nat.pow 2 105 by decide]
      exact Nat.pow_le_pow_right (by decide) hk
    exact Nat.not_le_of_lt (Nat.lt_of_lt_of_le hlt (hbig 1024 (by decide)))
  have hdiv : n * Nat.pow 2 (52 - n.log2) / Nat.pow 2 (52 - n.log2) = n :=
    Nat.mul_div_cancel n (Nat.two_pow_pos _)
  simp only [roundRatio, nearest_one hn h, Int.neg_neg, power_natCast, power_neg_natCast,
    Nat.mul_one, hfinite, if_false, Nat.mul_mod_left, if_true, hdiv]

/-- A whole number with its own sign. -/
theorem Rounded.signed_natAbs (n : Int) : signed (decide (n < 0)) n.natAbs = .whole n := by
  unfold signed
  by_cases hneg : n < 0
  · rw [if_pos (decide_eq_true hneg), if_neg (show n.natAbs ≠ 0 by omega),
      show -(n.natAbs : Int) = n by omega]
  · rw [if_neg (by simpa using hneg), show (n.natAbs : Int) = n by omega]

/-- **A whole number below `2 ^ 53` is kept.** -/
theorem round_ofInt {n : Int} (h : n.natAbs < Nat.pow 2 53) : (ofInt n).round = .whole n := by
  have hone : power 10 0 = 1 := rfl
  have hlen : (Nat.toDigits 10 n.natAbs).length ≤ 16 :=
    (Nat.length_toDigits_le_iff (by decide) (by decide)).mpr (Nat.lt_trans h (by decide))
  by_cases hn : n.natAbs = 0
  · obtain rfl : n = 0 := by omega
    rfl
  · have hsmall : ¬(400 : Int) < (Nat.toDigits 10 n.natAbs).length + 0 := by omega
    have hlarge : ¬((Nat.toDigits 10 n.natAbs).length + 0 : Int) < -400 := by omega
    simp only [round, ofInt, hn, hsmall, hlarge, if_false, Int.neg_zero, hone, Nat.mul_one]
    rw [roundRatio_one _ hn h, Rounded.signed_natAbs]

/-- A number is written as the one with a plain zero. -/
theorem render_settled (d : Decimal) : d.settled.render = d.render := by
  have htwice : d.settled.settled.negative = d.settled.negative := by
    simp only [settled, Bool.and_assoc, Bool.and_self]
  unfold render
  rw [htwice]
  rfl

end Decimal

namespace Json

/-! ## Digits -/

/-- The digits of a number stand out from what follows, if that starts with no digit. -/
theorem digitsAhead_toDigits (n : Nat) {rest : List Char}
    (h : ∀ c ∈ rest.head?, c.isDigit = false) :
    digitsAhead (Nat.toDigits 10 n ++ rest) = (Nat.toDigits 10 n, rest) := by
  have hdigits : ∀ c ∈ Nat.toDigits 10 n, c.isDigit = true :=
    fun c hc => Nat.isDigit_of_mem_toDigits (by decide) (by decide) hc
  have hrest : rest.takeWhile Char.isDigit = [] ∧ rest.dropWhile Char.isDigit = rest := by
    cases rest with
    | nil => exact ⟨rfl, rfl⟩
    | cons c cs =>
      have hc : c.isDigit = false := h c rfl
      exact ⟨List.takeWhile_cons_of_neg (by simp [hc]), List.dropWhile_cons_of_neg (by simp [hc])⟩
  rw [digitsAhead, List.takeWhile_append_of_pos hdigits, List.dropWhile_append_of_pos hdigits,
    hrest.1, hrest.2, List.append_nil]

/-- Only zero is written with a zero in front, and with nothing behind it. -/
theorem eq_nil_of_toDigits_eq_zero_cons {n : Nat} {ds : List Char}
    (h : Nat.toDigits 10 n = '0' :: ds) : ds = [] := by
  induction n using Nat.strongRecOn generalizing ds with
  | _ n ih =>
    by_cases hn : n < 10
    · rw [Nat.toDigits_of_lt_base hn] at h
      exact (List.cons.inj h).2.symm
    · rw [Nat.toDigits_of_base_le (by decide) (by omega)] at h
      cases hfront : Nat.toDigits 10 (n / 10) with
      | nil => exact absurd hfront Nat.toDigits_ne_nil
      | cons c cs =>
        rw [hfront, List.cons_append] at h
        obtain ⟨rfl, -⟩ := List.cons.inj h
        have hzero : n / 10 = 0 := by
          rw [← Nat.ofDigitChars_ten_toDigits (n := n / 10), hfront, ih (n / 10) (by omega) hfront]
          rfl
        omega

/-- The whole part of a number is its digits. -/
theorem readWhole_toDigits (n : Nat) {rest : List Char} (h : ∀ c ∈ rest.head?, c.isDigit = false) :
    readWhole (Nat.toDigits 10 n ++ rest) = some (Nat.toDigits 10 n, rest) := by
  unfold readWhole
  rw [digitsAhead_toDigits n h]
  split
  · rename_i hnil
    exact absurd (congrArg Prod.fst hnil) Nat.toDigits_ne_nil
  · rename_i hzero
    exact absurd (eq_nil_of_toDigits_eq_zero_cons (congrArg Prod.fst hzero)) (by simp)
  · rfl

/-- The digits of a power of ten are its value. -/
theorem readPower_toDigits (negative : Bool) (n : Nat) {rest : List Char}
    (h : ∀ c ∈ rest.head?, c.isDigit = false) :
    readPower negative (Nat.toDigits 10 n ++ rest) =
      some (if negative then -(n : Int) else n, rest) := by
  unfold readPower
  rw [digitsAhead_toDigits n h]
  split
  · rename_i hnil
    exact absurd (congrArg Prod.fst hnil) Nat.toDigits_ne_nil
  · rename_i hds
    obtain ⟨rfl, rfl⟩ := Prod.mk.inj hds
    rw [digitsValue, Nat.ofDigitChars_ten_toDigits]

/-- A number is written with a sign when it is negative. -/
theorem toList_toString_int (n : Int) :
    (toString n).toList = (if n < 0 then ['-'] else []) ++ Nat.toDigits 10 n.natAbs := by
  rw [Int.toString_eq_repr, Int.repr_eq_if]
  by_cases hn : n < 0
  · have habs : (-n).toNat = n.natAbs := by omega
    rw [if_neg (by omega), if_pos hn, habs, String.toList_append, Nat.toList_repr]
    rfl
  · have habs : n.toNat = n.natAbs := by omega
    rw [if_pos (by omega), if_neg hn, habs, Nat.toList_repr, List.nil_append]

/-- The digits of a number start with neither sign. -/
theorem toDigits_eq_cons (n : Nat) :
    ∃ d ds, Nat.toDigits 10 n = d :: ds ∧ d.isDigit = true := by
  cases h : Nat.toDigits 10 n with
  | nil => exact absurd h Nat.toDigits_ne_nil
  | cons d ds =>
    exact ⟨d, ds, rfl, Nat.isDigit_of_mem_toDigits (by decide) (by decide) (h ▸ List.mem_cons_self)⟩

/-! ## Whole numbers and powers of ten -/

/-- A text that cannot go on with a number: it starts with no digit, point or power of ten. -/
def EndsNumber (cs : List Char) : Prop :=
  ∀ c ∈ cs.head?, c.isDigit = false ∧ c ≠ '.' ∧ c ≠ 'e' ∧ c ≠ 'E'

/-- The power of ten behind an `e`. -/
theorem readExponent_e (n : Int) {rest : List Char} (h : EndsNumber rest) :
    readExponent ('e' :: ((toString n).toList ++ rest)) = some (n, rest) := by
  have hrest : ∀ c ∈ rest.head?, c.isDigit = false := fun c hc => (h c hc).1
  rw [toList_toString_int]
  by_cases hn : n < 0
  · simp only [readExponent, hn, if_true, List.cons_append, List.nil_append, true_or]
    rw [readPower_toDigits true _ hrest, if_pos rfl]
    exact congrArg (fun k => some (k, rest)) (by omega)
  · obtain ⟨d, ds, hds, hd⟩ := toDigits_eq_cons n.natAbs
    have hminus : d ≠ '-' := by rintro rfl; exact absurd hd (by decide)
    have hplus : d ≠ '+' := by rintro rfl; exact absurd hd (by decide)
    have hpower := readPower_toDigits false n.natAbs hrest
    rw [hds, List.cons_append] at hpower
    simp only [readExponent, hn, if_false, List.nil_append, true_or, if_true, hds,
      List.cons_append]
    split
    · rename_i hcons
      exact absurd (List.cons.inj hcons).1 hminus
    · rename_i hcons
      exact absurd (List.cons.inj hcons).1 hplus
    · rw [hpower]
      exact congrArg (fun k => some (k, rest)) (by simp; omega)

/-- Without a power of ten the number is whole. -/
theorem readExponent_of_endsNumber {rest : List Char} (h : EndsNumber rest) :
    readExponent rest = some (0, rest) := by
  cases rest with
  | nil => rfl
  | cons c cs =>
    obtain ⟨-, -, he, hE⟩ := h c rfl
    simp only [readExponent, he, hE, or_self, if_false]

/-- Without a point there are no digits behind one. -/
theorem readFraction_of_head? {cs : List Char} (h : ∀ c ∈ cs.head?, c ≠ '.') :
    readFraction cs = some ([], cs) := by
  unfold readFraction
  split
  · exact absurd rfl (h '.' rfl)
  · rfl

/-! ## Numbers -/

/-- Digits with a power of ten behind them. -/
theorem readMagnitude_toDigits (negative : Bool) (n : Nat) {power : Int} {tail rest : List Char}
    (htail : ∀ c ∈ tail.head?, c.isDigit = false ∧ c ≠ '.')
    (hpower : readExponent tail = some (power, rest)) :
    readMagnitude negative (Nat.toDigits 10 n ++ tail) = some (⟨negative, n, power⟩, rest) := by
  rw [readMagnitude, readWhole_toDigits n fun c hc => (htail c hc).1]
  simp only [Option.bind_eq_bind, Option.bind_some,
    readFraction_of_head? fun c hc => (htail c hc).2, hpower, List.append_nil, digitsValue,
    Nat.ofDigitChars_ten_toDigits, List.length_nil]
  simp

/-- A sign, digits and a power of ten behind them. -/
theorem readNumber_sign_append (negative : Bool) (n : Nat) {power : Int} {tail rest : List Char}
    (htail : ∀ c ∈ tail.head?, c.isDigit = false ∧ c ≠ '.')
    (hpower : readExponent tail = some (power, rest)) :
    readNumber ((if negative then ['-'] else []) ++ (Nat.toDigits 10 n ++ tail)) =
      some (⟨negative, n, power⟩, rest) := by
  have hread := readMagnitude_toDigits negative n htail hpower
  cases negative with
  | true => exact hread
  | false =>
    obtain ⟨d, ds, hds, hd⟩ := toDigits_eq_cons n
    rw [hds] at hread
    rw [if_neg Bool.false_ne_true, List.nil_append, hds, readNumber]
    · exact hread
    · intro cs hcons
      obtain rfl : d = '-' := (List.cons.inj hcons).1
      exact absurd hd (by decide)

/-- The characters of a number that is written: the sign of all but a zero, the digits, and the
power of ten. -/
theorem toList_render (d : Decimal) :
    d.render.toList = (if d.settled.negative then ['-'] else []) ++ (Nat.toDigits 10 d.digits ++
      if d.exponent = 0 then [] else 'e' :: (toString d.exponent).toList) := by
  have hdigits : (toString d.digits).toList = Nat.toDigits 10 d.digits := Nat.toList_repr
  rw [Decimal.render, String.toList_append, String.toList_append, hdigits, List.append_assoc]
  congr 1
  · split <;> rfl
  · congr 1
    split
    · rfl
    · rw [String.toList_append]
      rfl

/-- **A number that is written reads back**, sign, digits and power of ten; a zero reads back
without a sign. -/
theorem readNumber_render (d : Decimal) {rest : List Char} (h : EndsNumber rest) :
    readNumber (d.render.toList ++ rest) = some (d.settled, rest) := by
  rw [toList_render, List.append_assoc, List.append_assoc]
  by_cases hzero : d.exponent = 0
  · have hread := readNumber_sign_append d.settled.negative d.digits
      (fun c hc => ⟨(h c hc).1, (h c hc).2.1⟩) (readExponent_of_endsNumber h)
    rw [if_pos hzero, List.nil_append, hread, ← hzero]
    rfl
  · have htail : ∀ c ∈ ('e' :: ((toString d.exponent).toList ++ rest)).head?,
        c.isDigit = false ∧ c ≠ '.' := by
      intro c hc
      obtain rfl : 'e' = c := Option.some.inj hc
      decide
    rw [if_neg hzero]
    exact readNumber_sign_append d.settled.negative d.digits htail (readExponent_e d.exponent h)

/-- A number is written with a sign or a digit in front. -/
theorem render_eq_cons (d : Decimal) :
    ∃ c cs, d.render.toList = c :: cs ∧ (c = '-' ∨ c.isDigit = true) := by
  rw [toList_render]
  cases d.settled.negative with
  | true => exact ⟨'-', _, rfl, Or.inl rfl⟩
  | false =>
    obtain ⟨c, cs, hds, hc⟩ := toDigits_eq_cons d.digits
    exact ⟨c, _, by rw [hds]; rfl, Or.inr hc⟩

end Json

end TargetUri
