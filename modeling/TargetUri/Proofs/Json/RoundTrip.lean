import TargetUri.Json.Render
import TargetUri.Proofs.Json.Numeral

set_option autoImplicit false

/-!
# JSON text read back

Every value that is written on indented lines is read as itself, with the order of its members, with
repeated keys and with every unit of its texts, halves of characters included. Only the sign of a
zero is not written.

## Main definitions

* `TargetUri.Json.settled` — a value without zeros that have a minus sign.
* `TargetUri.Json.Reads` — a value that every reader with enough steps finds at the front of its
  text.

## Main results

* `TargetUri.Json.induction` — what holds of a value whenever it holds of those in it holds of all.
* `TargetUri.Json.readString_quote` — a text in quotation marks reads back.
* `TargetUri.Json.read?_pretty_newline` — a value that is written to a file reads back.
-/

namespace TargetUri.Json

/-! ## Strings -/

/-- The code of a unit is read as its number. -/
theorem hexCode?_lowerDigit {n : Nat} (h : n < 0x10000) :
    hexCode? (Hex.lowerDigit (n / 0x1000)) (Hex.lowerDigit (n / 0x100 % 16))
      (Hex.lowerDigit (n / 16 % 16)) (Hex.lowerDigit (n % 16)) = some n := by
  have hdigit : ∀ k, Hex.value? (Hex.lowerDigit (k % 16)) = some (k % 16) :=
    fun k => Hex.value?_lowerDigit (Nat.mod_lt k (by decide))
  simp only [hexCode?, Hex.value?_lowerDigit (show n / 0x1000 < 16 by omega), hdigit,
    Option.bind_eq_bind, Option.bind_some]
  exact congrArg some (by omega)

/-- **Each unit that is written by its code is read as itself.** -/
theorem readUnits_escapeUnit (u : UInt16) (cs : List Char) :
    readUnits (escapeUnit u ++ cs) = (readUnits cs).map (consUnits [u]) := by
  simp only [escapeUnit, List.cons_append, List.nil_append, readUnits,
    hexCode?_lowerDigit u.toNat_lt, UInt16.ofNat_toNat]

/-- A character of a string that needs no escape. -/
theorem readUnits_cons {c : Char} (hquote : c ≠ '"') (hslash : c ≠ '\\') (h : ¬c.toNat < 0x20)
    (cs : List Char) :
    readUnits (c :: cs) = (readUnits cs).map (consUnits (Text.unitsOfChar c)) := by
  rw [readUnits]
  · rw [if_neg (by simp [hslash, h])]
  all_goals simp [hquote, hslash]

/-- **Each character that is written in a string is read as itself**, escaped or not. -/
theorem readUnits_escape (c : Char) (cs : List Char) :
    readUnits (escape c ++ cs) = (readUnits cs).map (consUnits (Text.unitsOfChar c)) := by
  by_cases hquote : c = '"'
  · subst hquote; rfl
  by_cases hslash : c = '\\'
  · subst hslash; rfl
  by_cases hback : c = '\x08'
  · subst hback; rfl
  by_cases htab : c = '\t'
  · subst htab; rfl
  by_cases hline : c = '\n'
  · subst hline; rfl
  by_cases hfeed : c = '\x0c'
  · subst hfeed; rfl
  by_cases hreturn : c = '\r'
  · subst hreturn; rfl
  simp only [escape, hquote, hslash, hback, htab, hline, hfeed, hreturn, if_false]
  by_cases hcontrol : c.toNat < 0x20
  · have hunits : Text.unitsOfChar c = [UInt16.ofNat c.toNat] := if_pos (by omega)
    rw [if_pos hcontrol, readUnits_escapeUnit, hunits]
  · rw [if_neg hcontrol]
    exact readUnits_cons hquote hslash hcontrol cs

/-- The units of a string up to its closing quotation mark are those of the pieces written. -/
theorem readUnits_flatMap (ps : List Text.Piece) (rest : List Char) :
    readUnits (ps.flatMap escapePiece ++ '"' :: rest) =
      some (ps.flatMap Text.Piece.units, rest) := by
  induction ps with
  | nil => rfl
  | cons p ps ih =>
    rw [List.flatMap_cons, List.append_assoc, List.flatMap_cons]
    cases p with
    | char c => rw [escapePiece, readUnits_escape, ih]; rfl
    | half u => rw [escapePiece, readUnits_escapeUnit, ih]; rfl

/-- **A text in quotation marks reads back**, once the first of them has been read. -/
theorem readString_quote (w : WideString) (rest : List Char) :
    readString (w.pieces.flatMap escapePiece ++ '"' :: rest) = some (w, rest) := by
  rw [readString, readUnits_flatMap, Option.map_some, WideString.flatMap_units_pieces,
    WideString.ofUnits_units]

/-! ## Blanks -/

/-- The blanks between the parts of a text. -/
def blanks : List Char := [' ', '\t', '\n', '\r']

/-- Nothing is dropped in front of a character that is no blank. -/
theorem skipBlanks_cons {c : Char} (h : c ∉ blanks) (cs : List Char) :
    skipBlanks (c :: cs) = c :: cs := by
  simp only [blanks, List.mem_cons, List.not_mem_nil, or_false, not_or] at h
  rw [skipBlanks, List.dropWhile_cons_of_neg]
  simp [h]

/-- A line break and the indentation after it are dropped. -/
theorem skipBlanks_newline (level : Nat) (cs : List Char) :
    skipBlanks (newline level ++ cs) = skipBlanks cs := by
  rw [skipBlanks, newline, List.dropWhile_append_of_pos]
  · rfl
  · intro c hc
    rcases List.mem_cons.mp hc with rfl | hc
    · rfl
    · rw [List.eq_of_mem_replicate hc]
      rfl

/-- A value is read past the line break before it. -/
theorem readValue_newline (fuel level : Nat) (cs : List Char) :
    readValue fuel (newline level ++ cs) = readValue fuel cs := by
  cases fuel with
  | zero => rw [readValue, readValue]
  | succ fuel => rw [readValue, readValue, skipBlanks_newline]

/-- The items of a list are read past the line break before them. -/
theorem readItems_newline (fuel level : Nat) (cs : List Char) :
    readItems fuel (newline level ++ cs) = readItems fuel cs := by
  cases fuel with
  | zero => rw [readItems, readItems]
  | succ fuel => rw [readItems, readItems, readValue_newline]

/-- The members of an object are read past the line break before them. -/
theorem readMembers_newline (fuel level : Nat) (cs : List Char) :
    readMembers fuel (newline level ++ cs) = readMembers fuel cs := by
  cases fuel with
  | zero => rw [readMembers, readMembers]
  | succ fuel => rw [readMembers, readMembers, skipBlanks_newline]

/-- A value is read past a space before it. -/
theorem readValue_space (fuel : Nat) (cs : List Char) :
    readValue fuel (' ' :: cs) = readValue fuel cs := by
  cases fuel with
  | zero => rw [readValue, readValue]
  | succ fuel => rw [readValue, readValue]; rfl

/-! ## Values -/

/-- **What holds of a value whenever it holds of those in it holds of all values.** -/
@[elab_as_elim]
theorem induction {P : Json → Prop} (null : P .null) (bool : ∀ b, P (.bool b))
    (num : ∀ d, P (.num d)) (str : ∀ s, P (.str s)) (arr : ∀ vs, (∀ v ∈ vs, P v) → P (.arr vs))
    (obj : ∀ ms, (∀ m ∈ ms, P m.2) → P (.obj ms)) : ∀ j, P j
  | .null => null
  | .bool b => bool b
  | .num d => num d
  | .str s => str s
  | .arr vs => arr vs fun v hv =>
    have hlt : sizeOf v < 1 + sizeOf vs := by
      have hmem := List.sizeOf_lt_of_mem hv
      omega
    induction null bool num str arr obj v
  | .obj ms => obj ms fun m hm =>
    have hlt : sizeOf m.2 < 1 + sizeOf ms := by
      have hmem := List.sizeOf_lt_of_mem hm
      have hvalue : sizeOf m = 1 + sizeOf m.1 + sizeOf m.2 := rfl
      omega
    induction null bool num str arr obj m.2
termination_by j => sizeOf j

mutual

/-- The value with a plain zero in place of every zero that has a minus sign. -/
def settled : Json → Json
  | .null => .null
  | .bool b => .bool b
  | .num d => .num d.settled
  | .str s => .str s
  | .arr vs => .arr (settledItems vs)
  | .obj ms => .obj (settledMembers ms)

/-- The items of a list, each with plain zeros. -/
def settledItems : List Json → List Json
  | [] => []
  | v :: vs => settled v :: settledItems vs

/-- The members of an object, each with plain zeros. -/
def settledMembers : List (String × Json) → List (String × Json)
  | [] => []
  | (k, v) :: ms => (k, settled v) :: settledMembers ms

end

mutual

/-- A zero is written without its sign, so a value is written as the one with plain zeros. -/
theorem prettyChars_settled (level : Nat) :
    (j : Json) → prettyChars level j.settled = prettyChars level j
  | .null => rfl
  | .bool _ => rfl
  | .num d => congrArg String.toList d.render_settled
  | .str _ => rfl
  | .arr [] => rfl
  | .arr (v :: vs) => by
    simp only [settled, settledItems, prettyChars, prettyChars_settled (level + 1) v,
      prettyItems_settled level vs]
  | .obj [] => rfl
  | .obj ((_, v) :: ms) => by
    simp only [settled, settledMembers, prettyChars, prettyChars_settled (level + 1) v,
      prettyMembers_settled level ms]

/-- The items of a list are written as those with plain zeros. -/
theorem prettyItems_settled (level : Nat) :
    (vs : List Json) → prettyItems level (settledItems vs) = prettyItems level vs
  | [] => rfl
  | v :: vs => by
    simp only [settledItems, prettyItems, prettyChars_settled (level + 1) v,
      prettyItems_settled level vs]

/-- The members of an object are written as those with plain zeros. -/
theorem prettyMembers_settled (level : Nat) :
    (ms : List (String × Json)) → prettyMembers level (settledMembers ms) = prettyMembers level ms
  | [] => rfl
  | (_, v) :: ms => by
    simp only [settledMembers, prettyMembers, prettyChars_settled (level + 1) v,
      prettyMembers_settled level ms]

end

/-- A value that is found at the front of its text, with what follows it left over; the sign of a
zero is lost. Two steps for each character are enough. -/
def Reads (j : Json) : Prop :=
  ∀ (level fuel : Nat) (rest : List Char), EndsNumber rest →
    2 * (prettyChars level j).length ≤ fuel + 1 →
    readValue fuel (prettyChars level j ++ rest) = some (j.settled, rest)

/-- The text of a value starts with no blank, and with nothing that closes a list. -/
theorem prettyChars_eq_cons (level : Nat) (j : Json) :
    ∃ c cs, prettyChars level j = c :: cs ∧ c ∉ blanks ∧ c ≠ ']' := by
  cases j with
  | null => exact ⟨'n', _, rfl, by decide, by decide⟩
  | bool b => cases b <;> exact ⟨_, _, rfl, by decide, by decide⟩
  | str s => exact ⟨'"', _, rfl, by decide, by decide⟩
  | arr vs => cases vs <;> exact ⟨'[', _, rfl, by decide, by decide⟩
  | obj ms => cases ms <;> exact ⟨'{', _, rfl, by decide, by decide⟩
  | num d =>
    obtain ⟨c, cs, hcons, hc⟩ := render_eq_cons d
    refine ⟨c, cs, hcons, ?_, ?_⟩
    · intro hblank
      simp only [blanks, List.mem_cons, List.not_mem_nil, or_false] at hblank
      rcases hblank with rfl | rfl | rfl | rfl <;> exact absurd hc (by decide)
    · rintro rfl
      exact absurd hc (by decide)

/-- A text that starts with a line break or a comma ends a number. -/
theorem endsNumber_cons {c : Char} (h : c = '\n' ∨ c = ',') (cs : List Char) :
    EndsNumber (c :: cs) := by
  intro d hd
  obtain rfl : c = d := Option.some.inj hd
  rcases h with rfl | rfl <;> decide

/-- The items of a list read back, the first of them after the opening bracket.

**Proof sketch.** Induction on the items after the first. Each is read as a value, and what stands
after it, a comma or the line break before the closing bracket, cannot be taken for more of it. -/
theorem readItems_pretty (level : Nat) {v : Json} {vs : List Json} (h : ∀ w ∈ v :: vs, Reads w)
    {fuel : Nat} (rest : List Char)
    (hfuel : 2 * ((prettyChars (level + 1) v).length + (prettyItems level vs).length) ≤ fuel) :
    readItems fuel (prettyChars (level + 1) v ++ (prettyItems level vs ++ rest)) =
      some (settledItems (v :: vs), rest) := by
  have hv := h v List.mem_cons_self
  induction vs generalizing v fuel with
  | nil =>
    have hlen : 2 ≤ (prettyItems level []).length := by simp [prettyItems, newline]
    obtain ⟨f, rfl⟩ : ∃ f, fuel = f + 1 := ⟨fuel - 1, by omega⟩
    have hread := hv (level + 1) f (prettyItems level [] ++ rest)
      (endsNumber_cons (Or.inl rfl) _) (by omega)
    rw [readItems, hread]
    simp only [prettyItems, List.append_assoc, Option.bind_eq_bind, Option.bind_some,
      skipBlanks_newline, List.cons_append, List.nil_append]
    rw [skipBlanks_cons (by decide)]
    rfl
  | cons w vs ih =>
    have hlen : (prettyItems level (w :: vs)).length =
        1 + (newline (level + 1)).length + (prettyChars (level + 1) w).length +
          (prettyItems level vs).length := by
      simp only [prettyItems, List.length_cons, List.length_append]
      omega
    obtain ⟨f, rfl⟩ : ∃ f, fuel = f + 1 := ⟨fuel - 1, by omega⟩
    have hread := hv (level + 1) f (prettyItems level (w :: vs) ++ rest)
      (endsNumber_cons (Or.inr rfl) _) (by omega)
    have hrest : readItems f (prettyChars (level + 1) w ++ (prettyItems level vs ++ rest)) =
        some (settledItems (w :: vs), rest) :=
      ih (fun x hx => h x (List.mem_cons_of_mem v hx)) (by omega)
        (h w (List.mem_cons_of_mem v List.mem_cons_self))
    rw [readItems, hread]
    simp only [prettyItems, List.append_assoc, Option.bind_eq_bind, Option.bind_some,
      List.cons_append]
    rw [skipBlanks_cons (by decide)]
    simp only [readItems_newline, hrest, Option.map_some, settledItems]

/-- The members of an object read back, the first of them after the opening brace. -/
theorem readMembers_pretty (level : Nat) {k : String} {v : Json} {ms : List (String × Json)}
    (h : ∀ m ∈ (k, v) :: ms, Reads m.2) {fuel : Nat} (rest : List Char)
    (hfuel : 2 * ((prettyChars (level + 1) v).length + (prettyMembers level ms).length) ≤ fuel) :
    readMembers fuel (quote k ++ (':' :: ' ' :: (prettyChars (level + 1) v ++
      (prettyMembers level ms ++ rest)))) = some (settledMembers ((k, v) :: ms), rest) := by
  have hv : Reads v := h (k, v) List.mem_cons_self
  induction ms generalizing k v fuel with
  | nil =>
    have hlen : 2 ≤ (prettyMembers level []).length := by simp [prettyMembers, newline]
    obtain ⟨f, rfl⟩ : ∃ f, fuel = f + 1 := ⟨fuel - 1, by omega⟩
    have hread := hv (level + 1) f (prettyMembers level [] ++ rest)
      (endsNumber_cons (Or.inl rfl) _) (by omega)
    rw [readMembers, quote, List.cons_append, List.cons_append, skipBlanks_cons (by decide)]
    simp only [List.append_assoc, List.cons_append, List.nil_append, readString_quote,
      Option.bind_eq_bind, Option.bind_some]
    rw [skipBlanks_cons (by decide)]
    simp only [readValue_space, hread, Option.bind_some]
    simp only [prettyMembers, List.append_assoc, skipBlanks_newline, List.cons_append,
      List.nil_append]
    rw [skipBlanks_cons (by decide)]
    rfl
  | cons m ms ih =>
    obtain ⟨k', w⟩ := m
    have hlen : (prettyMembers level ((k', w) :: ms)).length =
        3 + (newline (level + 1)).length + (quote k').length + (prettyChars (level + 1) w).length +
          (prettyMembers level ms).length := by
      simp only [prettyMembers, List.length_cons, List.length_append]
      omega
    obtain ⟨f, rfl⟩ : ∃ f, fuel = f + 1 := ⟨fuel - 1, by omega⟩
    have hread := hv (level + 1) f (prettyMembers level ((k', w) :: ms) ++ rest)
      (endsNumber_cons (Or.inr rfl) _) (by omega)
    have hrest : readMembers f (quote k' ++ (':' :: ' ' :: (prettyChars (level + 1) w ++
        (prettyMembers level ms ++ rest)))) = some (settledMembers ((k', w) :: ms), rest) :=
      ih (fun x hx => h x (List.mem_cons_of_mem _ hx)) (by omega)
        (h (k', w) (List.mem_cons_of_mem _ List.mem_cons_self))
    rw [readMembers, quote, List.cons_append, List.cons_append, skipBlanks_cons (by decide)]
    simp only [List.append_assoc, List.cons_append, List.nil_append, readString_quote,
      Option.bind_eq_bind, Option.bind_some]
    rw [skipBlanks_cons (by decide)]
    simp only [readValue_space, hread, Option.bind_some]
    simp only [prettyMembers, List.append_assoc, List.cons_append]
    rw [skipBlanks_cons (by decide)]
    simp only [readMembers_newline, hrest, Option.map_some, settledMembers,
      WideString.repaired_text]

/-- A number is found by its first character. -/
theorem readValue_of_isDigit {c : Char} (hc : c = '-' ∨ c.isDigit = true) (fuel : Nat)
    (cs : List Char) :
    readValue (fuel + 1) (c :: cs) = (readNumber (c :: cs)).map fun r => (.num r.1, r.2) := by
  have hothers : (['"', '[', '{', 't', 'f', 'n'] ++ blanks).all
      (fun d => !(d == '-' || d.isDigit)) = true := by decide
  have hstart : ∀ d ∈ ['"', '[', '{', 't', 'f', 'n'] ++ blanks, ¬(d = '-' ∨ d.isDigit = true) :=
    fun d hd => by simpa using List.all_eq_true.mp hothers d hd
  have hne : ∀ d ∈ ['"', '[', '{', 't', 'f', 'n'], c ≠ d := by
    rintro d hd rfl
    exact hstart c (List.mem_append_left _ hd) hc
  have hblank : c ∉ blanks := fun h => hstart c (List.mem_append_right _ h) hc
  rw [readValue, skipBlanks_cons hblank]
  split
  all_goals first
    | rfl
    | exact absurd (List.cons.inj ‹_›).1 (hne _ (by decide))

/-- **Every value is found at the front of its text.**

**Proof sketch.** Induction on the value (`induction`). What a list or an object holds is read item
by item (`readItems_pretty`, `readMembers_pretty`), and each character of the brackets, commas and
line breaks around an item pays for the steps that lead to it. -/
theorem reads (j : Json) : Reads j := by
  induction j using induction with
  | null =>
    intro level fuel rest _ hfuel
    obtain ⟨f, rfl⟩ : ∃ f, fuel = f + 1 := ⟨fuel - 1, by simp [prettyChars, scalar] at hfuel; omega⟩
    rfl
  | bool b =>
    intro level fuel rest _ hfuel
    obtain ⟨f, rfl⟩ : ∃ f, fuel = f + 1 :=
      ⟨fuel - 1, by cases b <;> simp [prettyChars, scalar] at hfuel <;> omega⟩
    cases b <;> rfl
  | num d =>
    intro level fuel rest hrest hfuel
    obtain ⟨c, cs, hcons, hc⟩ := render_eq_cons d
    have hread := readNumber_render d hrest
    simp only [prettyChars, scalar, hcons, List.cons_append] at hfuel hread ⊢
    obtain ⟨f, rfl⟩ : ∃ f, fuel = f + 1 := ⟨fuel - 1, by simp at hfuel; omega⟩
    rw [readValue_of_isDigit hc, hread, Option.map_some, settled]
  | str s =>
    intro level fuel rest _ hfuel
    simp only [prettyChars, scalar, quote, List.cons_append, List.length_cons] at hfuel ⊢
    obtain ⟨f, rfl⟩ : ∃ f, fuel = f + 1 := ⟨fuel - 1, by omega⟩
    rw [readValue, skipBlanks_cons (by decide), List.append_assoc, List.cons_append,
      List.nil_append]
    simp only [readString_quote, Option.map_some, settled]
  | arr vs ih =>
    intro level fuel rest hrest hfuel
    cases vs with
    | nil =>
      obtain ⟨f, rfl⟩ : ∃ f, fuel = f + 1 := ⟨fuel - 1, by simp [prettyChars] at hfuel; omega⟩
      rfl
    | cons v vs =>
      simp only [prettyChars, List.length_cons, List.length_append, List.cons_append,
        List.append_assoc] at hfuel ⊢
      obtain ⟨f, rfl⟩ : ∃ f, fuel = f + 1 := ⟨fuel - 1, by omega⟩
      obtain ⟨c, cs, hcons, hblank, hclose⟩ := prettyChars_eq_cons (level + 1) v
      have hitems : readItems f _ = _ := readItems_pretty level ih rest (by omega)
      rw [hcons, List.cons_append] at hitems
      rw [readValue, skipBlanks_cons (by decide)]
      simp only [skipBlanks_newline]
      rw [hcons, List.cons_append, skipBlanks_cons hblank]
      split
      · rename_i hcs
        exact absurd (List.cons.inj hcs).1 hclose
      · rw [hitems, Option.map_some, settled]
  | obj ms ih =>
    intro level fuel rest hrest hfuel
    cases ms with
    | nil =>
      obtain ⟨f, rfl⟩ : ∃ f, fuel = f + 1 := ⟨fuel - 1, by simp [prettyChars] at hfuel; omega⟩
      rfl
    | cons m ms =>
      obtain ⟨k, v⟩ := m
      simp only [prettyChars, List.length_cons, List.length_append, List.cons_append,
        List.append_assoc] at hfuel ⊢
      obtain ⟨f, rfl⟩ : ∃ f, fuel = f + 1 := ⟨fuel - 1, by omega⟩
      have hmembers : readMembers f _ = _ := readMembers_pretty level ih rest (by omega)
      rw [readValue, skipBlanks_cons (by decide)]
      simp only [skipBlanks_newline]
      rw [quote, List.cons_append, List.cons_append] at hmembers ⊢
      rw [skipBlanks_cons (by decide)]
      split
      · rename_i hcs
        exact absurd (List.cons.inj hcs).1 (by decide)
      · rw [hmembers, Option.map_some, settled]

end TargetUri.Json
