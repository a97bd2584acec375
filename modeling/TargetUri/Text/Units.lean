set_option autoImplicit false

/-!
# Units of text

Text measured, ordered and stored by 16-bit units: a character past `U+FFFF` counts as two, its
halves, which stand in order before the last characters up to `U+FFFF`. Every text is a row of
units, but a row of units is a text only when each first half in it stands before a second half and
each second half behind a first.

## Main definitions

* `TargetUri.Text.units` — the units of a text.
* `TargetUri.Text.unitCount` — how many there are.
* `TargetUri.Text.unitsLe` — the order of texts by their units.
* `TargetUri.Text.pieces` — any row of units as characters and halves that stand alone.

## Main results

* `TargetUri.Text.pieces_flatMap` — the pieces of a text are its characters.
* `TargetUri.Text.flatMap_units_pieces` — the pieces of a row of units are made of just these units.
-/

namespace TargetUri.Text

/-! ## Texts -/

/-- The units of a character. -/
def unitsOfChar (c : Char) : List UInt16 :=
  let n := c.toNat
  if n < 0x10000 then [UInt16.ofNat n]
  else
    [UInt16.ofNat (0xD800 + (n - 0x10000) / 0x400), UInt16.ofNat (0xDC00 + (n - 0x10000) % 0x400)]

/-- The units of a text. -/
def units (s : String) : List UInt16 := s.toList.flatMap unitsOfChar

/-- How many units a text has. -/
def unitCount (s : String) : Nat := (units s).length

/-- Whether one text comes before another or is equal to it, unit by unit. -/
def unitsLe (a b : String) : Bool := !decide (units b < units a)

/-! ## Rows of units -/

/-- Whether a unit is the first half of a character. -/
def IsFirstHalf (u : UInt16) : Prop := 0xD800 ≤ u.toNat ∧ u.toNat < 0xDC00

/-- Whether a unit is the second half of a character. -/
def IsSecondHalf (u : UInt16) : Prop := 0xDC00 ≤ u.toNat ∧ u.toNat < 0xE000

instance (u : UInt16) : Decidable (IsFirstHalf u) := inferInstanceAs (Decidable (_ ∧ _))

instance (u : UInt16) : Decidable (IsSecondHalf u) := inferInstanceAs (Decidable (_ ∧ _))

/-- A part of a row of units: a character, or half of one without the other half. -/
inductive Piece where
  /-- a character -/
  | char (c : Char)
  /-- a half that stands alone -/
  | half (unit : UInt16)
deriving DecidableEq, Repr

/-- Whether a piece is a half. -/
def Piece.isHalf : Piece → Bool
  | .char _ => false
  | .half _ => true

/-- The units of a piece. -/
def Piece.units : Piece → List UInt16
  | .char c => unitsOfChar c
  | .half u => [u]

/-- The character of a piece; in place of a half stands the replacement character. -/
def Piece.repaired : Piece → Char
  | .char c => c
  | .half _ => '\uFFFD'

/-- The piece of a unit that stands alone. -/
def pieceOf (u : UInt16) : Piece :=
  if IsFirstHalf u ∨ IsSecondHalf u then .half u else .char (Char.ofNat u.toNat)

/-- The character of two halves. -/
def join (first second : UInt16) : Char :=
  Char.ofNat (0x10000 + (first.toNat - 0xD800) * 0x400 + (second.toNat - 0xDC00))

/-- The pieces of a row of units: a first half and a second half behind it are one character. -/
def pieces : List UInt16 → List Piece
  | [] => []
  | [u] => [pieceOf u]
  | u :: v :: us =>
    if IsFirstHalf u ∧ IsSecondHalf v then .char (join u v) :: pieces us
    else pieceOf u :: pieces (v :: us)

/-! ## One character -/

/-- The number of a character is below the halves, or past them and below the last. -/
theorem toNat_char_cases (c : Char) : c.toNat < 0xD800 ∨ 0xDFFF < c.toNat ∧ c.toNat < 0x110000 :=
  c.valid

/-- A number that no half has is the number of its character. -/
theorem toNat_ofNat {n : Nat} (h : n < 0xD800 ∨ 0xDFFF < n ∧ n < 0x110000) :
    (Char.ofNat n).toNat = n := by
  rw [Char.ofNat, dif_pos h]
  rfl

/-- A unit is the one unit of a piece. -/
theorem units_pieceOf (u : UInt16) : (pieceOf u).units = [u] := by
  have hlt : u.toNat < 0x10000 := u.toNat_lt
  unfold pieceOf
  split
  · rfl
  · rename_i hhalf
    simp only [IsFirstHalf, IsSecondHalf] at hhalf
    have hnat : (Char.ofNat u.toNat).toNat = u.toNat := toNat_ofNat (by omega)
    simp only [Piece.units, unitsOfChar, hnat, if_pos hlt, UInt16.ofNat_toNat]

/-- Two halves are the units of their character. -/
theorem unitsOfChar_join {u v : UInt16} (hu : IsFirstHalf u) (hv : IsSecondHalf v) :
    unitsOfChar (join u v) = [u, v] := by
  simp only [IsFirstHalf, IsSecondHalf] at hu hv
  have hnat : (join u v).toNat = 0x10000 + (u.toNat - 0xD800) * 0x400 + (v.toNat - 0xDC00) :=
    toNat_ofNat (by omega)
  have hfirst : 0xD800 + ((join u v).toNat - 0x10000) / 0x400 = u.toNat := by omega
  have hsecond : 0xDC00 + ((join u v).toNat - 0x10000) % 0x400 = v.toNat := by omega
  simp only [unitsOfChar, if_neg (show ¬(join u v).toNat < 0x10000 by omega), hfirst, hsecond,
    UInt16.ofNat_toNat]

/-- **The two ways in which a character is stored**: as one unit that is no half, or as two halves
that make it. -/
theorem unitsOfChar_cases (c : Char) :
    (∃ u, unitsOfChar c = [u] ∧ ¬IsFirstHalf u ∧ pieceOf u = .char c) ∨
      ∃ u v, unitsOfChar c = [u, v] ∧ IsFirstHalf u ∧ IsSecondHalf v ∧ join u v = c := by
  have hvalid := toNat_char_cases c
  by_cases hsmall : c.toNat < 0x10000
  · have hunit : (UInt16.ofNat c.toNat).toNat = c.toNat := UInt16.toNat_ofNat_of_lt' hsmall
    have hhalf : ¬(IsFirstHalf (UInt16.ofNat c.toNat) ∨ IsSecondHalf (UInt16.ofNat c.toNat)) := by
      simp only [IsFirstHalf, IsSecondHalf, hunit]
      omega
    exact .inl ⟨UInt16.ofNat c.toNat, if_pos hsmall, fun h => hhalf (.inl h),
      by rw [pieceOf, if_neg hhalf, hunit, Char.ofNat_toNat]⟩
  · have hfirst : (UInt16.ofNat (0xD800 + (c.toNat - 0x10000) / 0x400)).toNat =
        0xD800 + (c.toNat - 0x10000) / 0x400 :=
      UInt16.toNat_ofNat_of_lt' (show _ < 0x10000 by omega)
    have hsecond : (UInt16.ofNat (0xDC00 + (c.toNat - 0x10000) % 0x400)).toNat =
        0xDC00 + (c.toNat - 0x10000) % 0x400 :=
      UInt16.toNat_ofNat_of_lt' (show _ < 0x10000 by omega)
    refine .inr ⟨_, _, if_neg hsmall, ?_, ?_, ?_⟩
    · rw [IsFirstHalf, hfirst]
      omega
    · rw [IsSecondHalf, hsecond]
      omega
    · have hnumber : 0x10000 + (0xD800 + (c.toNat - 0x10000) / 0x400 - 0xD800) * 0x400 +
          (0xDC00 + (c.toNat - 0x10000) % 0x400 - 0xDC00) = c.toNat := by omega
      rw [join, hfirst, hsecond, hnumber, Char.ofNat_toNat]

/-! ## Rows of units -/

/-- A unit that is no first half is a piece by itself. -/
theorem pieces_cons_of_not {u : UInt16} (h : ¬IsFirstHalf u) (us : List UInt16) :
    pieces (u :: us) = pieceOf u :: pieces us := by
  cases us with
  | nil => rfl
  | cons v us => rw [pieces, if_neg (fun hboth => h hboth.1)]

/-- **The pieces of a text are its characters.** -/
theorem pieces_flatMap (cs : List Char) : pieces (cs.flatMap unitsOfChar) = cs.map .char := by
  induction cs with
  | nil => rfl
  | cons c cs ih =>
    rw [List.flatMap_cons, List.map_cons]
    rcases unitsOfChar_cases c with ⟨u, hc, hfirst, hu⟩ | ⟨u, v, hc, hu, hv, hjoin⟩
    · rw [hc, List.singleton_append, pieces_cons_of_not hfirst, hu, ih]
    · rw [hc, List.cons_append, List.singleton_append, pieces, if_pos ⟨hu, hv⟩, hjoin, ih]

/-- **The pieces of a row of units are made of just these units.** -/
theorem flatMap_units_pieces (us : List UInt16) : (pieces us).flatMap Piece.units = us := by
  fun_induction pieces us with
  | case1 => rfl
  | case2 u => rw [List.flatMap_singleton, units_pieceOf]
  | case3 u v us h ih => rw [List.flatMap_cons, ih, Piece.units, unitsOfChar_join h.1 h.2]; rfl
  | case4 u v us h ih => rw [List.flatMap_cons, ih, units_pieceOf, List.singleton_append]

end TargetUri.Text
