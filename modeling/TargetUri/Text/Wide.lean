import TargetUri.Text.Units

set_option autoImplicit false

/-!
# Wide text

The strings of a program that stores text by 16-bit units and does not check that the halves of
characters stand in pairs. Most of them are texts. The others hold a half without the other half;
they can be read from an escape, compared, kept and written as an escape again, but they have no
bytes: where bytes are asked for, each such half becomes the replacement character.

## Main definitions

* `TargetUri.WideString` — a row of 16-bit units, kept as a text when it is one.
* `TargetUri.WideString.units`, `TargetUri.WideString.ofUnits` — its units, and the string of any
  units.
* `TargetUri.WideString.repaired` — the text that takes its place where bytes are asked for.

## Main results

* `TargetUri.WideString.ofUnits_units`, `TargetUri.WideString.units_ofUnits` — wide strings are rows
  of units and nothing else.

## Design

A text is a wide string by its constructor, so that texts are compared and matched as texts. The
other constructor carries the proof that its units are none.
-/

namespace TargetUri

/-- A row of units with a half that stands alone. -/
structure Ragged where
  /-- the units -/
  units : List UInt16
  /-- one of them is a half without the other -/
  unpaired : (Text.pieces units).any Text.Piece.isHalf = true
deriving DecidableEq, Repr

/-- A row of 16-bit units. -/
inductive WideString where
  /-- a text -/
  | text (value : String)
  /-- units that are no text -/
  | ragged (value : Ragged)
deriving DecidableEq, Repr

namespace WideString

instance : Inhabited WideString := ⟨.text ""⟩

/-- A text is a wide string. -/
instance : Coe String WideString := ⟨.text⟩

/-- Texts in a row are wide strings in a row. -/
instance : Coe (List String) (List WideString) := ⟨List.map .text⟩

/-- An optional text is an optional wide string. -/
instance : Coe (Option String) (Option WideString) := ⟨Option.map .text⟩

/-- The units of a wide string. -/
def units : WideString → List UInt16
  | .text s => Text.units s
  | .ragged r => r.units

/-- The characters of a wide string, and the halves that stand alone. -/
def pieces : WideString → List Text.Piece
  | .text s => s.toList.map .char
  | .ragged r => Text.pieces r.units

/-- The wide string of a row of units. -/
def ofUnits (us : List UInt16) : WideString :=
  if h : (Text.pieces us).any Text.Piece.isHalf then .ragged ⟨us, h⟩
  else .text (String.ofList ((Text.pieces us).map Text.Piece.repaired))

/-- The text of a wide string: each half that stands alone is the replacement character. -/
def repaired : WideString → String
  | .text s => s
  | .ragged r => String.ofList ((Text.pieces r.units).map Text.Piece.repaired)

/-- Where text is asked for, a wide string stands for the text that takes its place. -/
instance : CoeHead WideString String := ⟨repaired⟩

/-! ## Rows of units -/

/-- A row of pieces without halves is made of characters. -/
theorem eq_map_char_of_not_any {ps : List Text.Piece} (h : ¬ps.any Text.Piece.isHalf = true) :
    (ps.map Text.Piece.repaired).map .char = ps := by
  rw [List.map_map]
  refine (List.map_congr_left fun p hp => ?_).trans (List.map_id ps)
  cases p with
  | char c => rfl
  | half u => exact absurd (List.any_eq_true.mpr ⟨_, hp, rfl⟩) h

/-- The pieces of a wide string are those of its units. -/
theorem pieces_units (w : WideString) : Text.pieces w.units = w.pieces := by
  cases w with
  | text s => exact Text.pieces_flatMap s.toList
  | ragged r => rfl

/-- The units of a wide string are those of its pieces. -/
theorem flatMap_units_pieces (w : WideString) : w.pieces.flatMap Text.Piece.units = w.units := by
  rw [← pieces_units, Text.flatMap_units_pieces]

/-- **The units of a row of units.** -/
@[simp] theorem units_ofUnits (us : List UInt16) : (ofUnits us).units = us := by
  unfold ofUnits
  split
  · rfl
  · rename_i h
    have hpieces := eq_map_char_of_not_any h
    have hunits := Text.flatMap_units_pieces us
    rw [← hpieces, List.flatMap_map] at hunits
    rw [units, Text.units, String.toList_ofList]
    exact hunits

/-- **A wide string is made of its units.** -/
@[simp] theorem ofUnits_units (w : WideString) : ofUnits w.units = w := by
  unfold ofUnits
  cases w with
  | text s =>
    have hpieces : Text.pieces (units (.text s)) = s.toList.map .char := pieces_units (.text s)
    have hwhole : ¬(s.toList.map Text.Piece.char).any Text.Piece.isHalf = true := by
      simp [Text.Piece.isHalf]
    have hchars : (s.toList.map Text.Piece.char).map Text.Piece.repaired = s.toList := by
      rw [List.map_map]
      exact List.map_id _
    rw [dif_neg (hpieces ▸ hwhole), hpieces, hchars, String.ofList_toList]
  | ragged r => exact dif_pos r.unpaired

/-- A text needs no repair. -/
@[simp] theorem repaired_text (s : String) : repaired (.text s) = s := rfl

end WideString

end TargetUri
