import Mathlib.Data.List.Forall2

set_option autoImplicit false

/-!
# Fields between separators

A text that is cut at a separator is a list of fields, from which it is put together again. The laws
say which characters stand in the fields, and what reading all of them comes to.

## Main results

* `TargetUri.eq_or_mem_of_mem_intercalate`, `TargetUri.not_mem_of_mem_splitOn` — the characters of
  a text are those of its fields and the separator, and no field holds the latter.
* `TargetUri.intercalate_concat` — one more field at the end.
* `TargetUri.mapM_eq_some_iff_forall₂` — all fields are read just when each of them is.
-/

namespace TargetUri

/-! ## Characters -/

/-- A character of joined texts stands in one of them or is the separator. -/
theorem eq_or_mem_of_mem_intercalate {sep c : Char} {fields : List (List Char)}
    (h : c ∈ [sep].intercalate fields) : c = sep ∨ ∃ field ∈ fields, c ∈ field := by
  induction fields with
  | nil => simp at h
  | cons field fields ih =>
    cases fields with
    | nil => exact Or.inr ⟨field, by simp, by simpa using h⟩
    | cons next rest =>
      rw [List.intercalate_cons_cons, List.mem_append, List.mem_append] at h
      rcases h with (h | h) | h
      · exact Or.inr ⟨field, by simp, h⟩
      · exact Or.inl (by simpa using h)
      · rcases ih h with h | ⟨l, hl, hc⟩
        · exact Or.inl h
        · exact Or.inr ⟨l, List.mem_cons_of_mem _ hl, hc⟩

/-- A character of a text stands in one of its fields or is the separator. -/
theorem eq_or_mem_splitOn_of_mem {c : Char} {cs : List Char} (sep : Char) (h : c ∈ cs) :
    c = sep ∨ ∃ field ∈ cs.splitOn sep, c ∈ field := by
  have hjoin : [sep].intercalate (cs.splitOn sep) = cs := List.intercalate_splitOn sep
  rw [← hjoin] at h
  exact eq_or_mem_of_mem_intercalate h

/-- A field is free of the separator. -/
theorem not_mem_of_mem_splitOn {sep : Char} {cs field : List Char} (h : field ∈ cs.splitOn sep) :
    sep ∉ field := by
  induction cs generalizing field with
  | nil =>
    rw [List.splitOn_nil, List.mem_singleton] at h
    simp [h]
  | cons c cs ih =>
    rw [List.splitOn_cons_eq_if_modifyHead] at h
    by_cases hc : c = sep
    · rw [if_pos (by simpa using hc)] at h
      rcases List.mem_cons.mp h with rfl | h
      · exact List.not_mem_nil
      · exact ih h
    · rw [if_neg (by simpa using hc)] at h
      -- the character joins the first of the fields behind it
      obtain ⟨first, rest, hfirst⟩ := List.exists_cons_of_ne_nil (List.splitOn_ne_nil sep cs)
      rw [hfirst, List.modifyHead_cons] at h
      rw [hfirst] at ih
      rcases List.mem_cons.mp h with rfl | h
      · rw [List.mem_cons, not_or]
        exact ⟨Ne.symm hc, ih List.mem_cons_self⟩
      · exact ih (List.mem_cons_of_mem _ h)

/-! ## Joined fields -/

/-- A last field stands behind the others and a separator. -/
theorem intercalate_concat {sep : Char} {fields : List (List Char)} (h : fields ≠ [])
    (last : List Char) :
    [sep].intercalate (fields ++ [last]) = [sep].intercalate fields ++ sep :: last := by
  induction fields with
  | nil => exact absurd rfl h
  | cons field fields ih =>
    cases fields with
    | nil => simp [List.intercalate_cons_cons]
    | cons next fields =>
      rw [List.cons_append, List.cons_append, List.intercalate_cons_cons, ← List.cons_append,
        ih (by simp), List.intercalate_cons_cons]
      simp

/-! ## Reading fields -/

/-- **All of a list is read just when each of it is.** -/
theorem mapM_eq_some_iff_forall₂ {α β : Type} {f : α → Option β} {as : List α} {bs : List β} :
    as.mapM f = some bs ↔ List.Forall₂ (fun a b => f a = some b) as bs := by
  induction as generalizing bs with
  | nil => cases bs <;> simp
  | cons a as ih =>
    rw [List.mapM_cons, List.forall₂_cons_left_iff]
    constructor
    · intro h
      obtain ⟨b, hb, h⟩ := Option.bind_eq_some_iff.mp h
      obtain ⟨bs', hbs, h⟩ := Option.bind_eq_some_iff.mp h
      exact ⟨b, bs', hb, ih.mp hbs, (Option.some.inj h).symm⟩
    · rintro ⟨b, bs', hb, hbs, rfl⟩
      rw [hb, ih.mpr hbs]
      rfl

/-- What is related to a list element by element has a partner for each element. -/
theorem exists_of_forall₂ {α β : Type} {r : α → β → Prop} {as : List α} {bs : List β}
    (h : List.Forall₂ r as bs) {a : α} (ha : a ∈ as) : ∃ b ∈ bs, r a b := by
  induction h with
  | nil => exact absurd ha List.not_mem_nil
  | @cons x y xs ys hxy _ ih =>
    rcases List.mem_cons.mp ha with rfl | ha
    · exact ⟨y, List.mem_cons_self, hxy⟩
    · obtain ⟨b, hb, hab⟩ := ih ha
      exact ⟨b, List.mem_cons_of_mem _ hb, hab⟩

/-- Where all of a list is read, each of it is. -/
theorem exists_of_mapM_eq_some {α β : Type} {f : α → Option β} {as : List α} {bs : List β}
    (h : as.mapM f = some bs) {a : α} (ha : a ∈ as) : ∃ b, f a = some b := by
  obtain ⟨b, -, hb⟩ := exists_of_forall₂ (mapM_eq_some_iff_forall₂.mp h) ha
  exact ⟨b, hb⟩

end TargetUri
