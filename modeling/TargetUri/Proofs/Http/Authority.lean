import TargetUri.Http.Authority

set_option autoImplicit false

/-!
# How an authority is cut

The laws of the cuts that `Authority.parse` makes: a text is cut at the last occurrence of a
character exactly when what follows is free of it, a port that is printed in decimals reads back,
and the host is part of the text.

## Main results

* `TargetUri.splitLast_eq_some_iff`, `TargetUri.splitLast_eq_none_iff` — the cut at the last
  occurrence of a character.
* `TargetUri.readPort?_eq_some_iff`, `TargetUri.readPort?_toString` — which texts are ports, and
  that a printed port reads back.
* `TargetUri.Authority.parse_append_port` — a text followed by a colon and a printed port is read
  as host and port.
* `TargetUri.Authority.parse_of_not_mem_colon` — a text without a colon is read as a host.
* `TargetUri.splitPort_eq_readPort?` — looking for a bracket decides nothing.
* `TargetUri.splitPort_eq_some_iff` — which port is read, and which host is left.
* `TargetUri.Authority.mem_of_mem_host`, `TargetUri.Authority.not_mem_host_at` — the characters of
  the host come from the text, and no at sign is among them.
-/

namespace TargetUri

/-! ## The last occurrence of a character -/

/-- There is nothing to cut exactly when the character does not occur. -/
theorem splitLast_eq_none_iff {sep : Char} {cs : List Char} :
    splitLast sep cs = none ↔ sep ∉ cs := by
  induction cs with
  | nil => simp [splitLast]
  | cons c cs ih =>
    rw [splitLast, List.mem_cons, not_or]
    cases h : splitLast sep cs with
    | none =>
      rw [h] at ih
      by_cases hc : c = sep
      · simp [hc]
      · simpa [hc, Ne.symm hc] using ih
    | some r =>
      rw [h] at ih
      simpa using fun _ => ih

/-- A cut at the last occurrence loses nothing, and the text after it is free of the character. -/
theorem eq_append_of_splitLast {sep : Char} {cs before after : List Char}
    (h : splitLast sep cs = some (before, after)) : cs = before ++ sep :: after ∧ sep ∉ after := by
  induction cs generalizing before with
  | nil => simp [splitLast] at h
  | cons c cs ih =>
    rw [splitLast] at h
    cases hs : splitLast sep cs with
    | some r =>
      obtain ⟨b, a⟩ := r
      rw [hs] at h
      obtain ⟨rfl, rfl⟩ : c :: b = before ∧ a = after := by simpa using h
      obtain ⟨hcs, ha⟩ := ih hs
      exact ⟨by rw [hcs, List.cons_append], ha⟩
    | none =>
      rw [hs] at h
      by_cases hc : c = sep
      · obtain ⟨rfl, rfl⟩ : [] = before ∧ cs = after := by simpa [hc] using h
        exact ⟨by rw [hc, List.nil_append], splitLast_eq_none_iff.mp hs⟩
      · simp [hc] at h

/-- A text is cut before the last part that is free of the character. -/
theorem splitLast_append {sep : Char} (before : List Char) {after : List Char} (h : sep ∉ after) :
    splitLast sep (before ++ sep :: after) = some (before, after) := by
  induction before with
  | nil => simp [splitLast, splitLast_eq_none_iff.mpr h]
  | cons c before ih => rw [List.cons_append, splitLast, ih]

/-- **The cut at the last occurrence** is the one whose second part is free of the character. -/
theorem splitLast_eq_some_iff {sep : Char} {cs before after : List Char} :
    splitLast sep cs = some (before, after) ↔ cs = before ++ sep :: after ∧ sep ∉ after := by
  refine ⟨eq_append_of_splitLast, ?_⟩
  rintro ⟨rfl, h⟩
  exact splitLast_append before h

/-! ## Ports -/

/-- The digits of a number are ASCII digits. -/
theorem isDigit_of_mem_toString {c : Char} {n : Nat} (h : c ∈ (toString n).toList) :
    c.isDigit := by
  rw [Nat.toString_eq_ofList_toDigits, String.toList_ofList] at h
  exact Nat.isDigit_of_mem_toDigits (by decide) (by decide) h

/-- A port is one to five digits whose value is in range. -/
theorem readPort?_eq_some_iff {ds : List Char} {p : Nat} :
    readPort? ds = some p ↔
      (ds ≠ [] ∧ ds.length ≤ 5 ∧ ds.all Char.isDigit ∧ Nat.ofDigitChars 10 ds 0 ≤ 65535) ∧
        Nat.ofDigitChars 10 ds 0 = p := by
  rw [readPort?]
  exact Option.ite_none_right_eq_some.trans (and_congr_right fun _ => Option.some_inj)

/-- **A printed port reads back.** -/
theorem readPort?_toString {p : Nat} (hp : p ≤ 65535) :
    readPort? (toString p).toList = some p := by
  have hds : (toString p).toList = Nat.toDigits 10 p := by
    rw [Nat.toString_eq_ofList_toDigits, String.toList_ofList]
  have hlen : (Nat.toDigits 10 p).length ≤ 5 :=
    (Nat.length_toDigits_le_iff (by decide) (by decide)).mpr (by omega)
  have hall : (Nat.toDigits 10 p).all Char.isDigit = true :=
    List.all_eq_true.mpr fun c hc => Nat.isDigit_of_mem_toDigits (by decide) (by decide) hc
  rw [hds, readPort?_eq_some_iff, Nat.ofDigitChars_ten_toDigits]
  exact ⟨⟨Nat.toDigits_ne_nil, hlen, hall, hp⟩, rfl⟩

/-- The characters of a port are digits, so a character that is none does not occur in it. -/
theorem not_mem_of_readPort? {ds : List Char} {p : Nat} (h : readPort? ds = some p) {c : Char}
    (hc : c.isDigit = false) : c ∉ ds := by
  obtain ⟨⟨-, -, hdigits, -⟩, -⟩ := readPort?_eq_some_iff.mp h
  intro hm
  rw [List.all_eq_true.mp hdigits c hm] at hc
  exact absurd hc (by decide)

/-! ## Reading an authority -/

/-- A text without an at sign has no user information to drop. -/
theorem dropUserInfo_of_not_mem {cs : List Char} (h : '@' ∉ cs) : dropUserInfo cs = cs := by
  rw [dropUserInfo, splitLast_eq_none_iff.mpr h]

/-- What is left after the user information is the end of the text. -/
theorem isSuffix_dropUserInfo (cs : List Char) : dropUserInfo cs <:+ cs := by
  unfold dropUserInfo
  cases h : splitLast '@' cs with
  | none => exact List.suffix_refl cs
  | some r =>
    obtain ⟨before, after⟩ := r
    obtain ⟨rfl, -⟩ := eq_append_of_splitLast h
    exact ⟨before ++ ['@'], by simp⟩

/-- **Looking for a bracket decides nothing**: what holds one is no port anyway. -/
theorem splitPort_eq_readPort? (cs : List Char) :
    splitPort cs = match splitLast ':' cs with
      | some (host, ds) =>
        match readPort? ds with
        | some p => (host, some p)
        | none => (cs, none)
      | none => (cs, none) := by
  unfold splitPort
  cases splitLast ':' cs with
  | none => rfl
  | some r =>
    obtain ⟨host, ds⟩ := r
    dsimp only
    cases hport : readPort? ds with
    | none => rw [ite_self]
    | some p => exact if_neg (not_mem_of_readPort? hport (by decide))

/-- A host is the beginning of the text that it was read from. -/
theorem isPrefix_splitPort (cs : List Char) : (splitPort cs).1 <+: cs := by
  rw [splitPort_eq_readPort?]
  cases h : splitLast ':' cs with
  | none => exact List.prefix_refl cs
  | some r =>
    obtain ⟨host, ds⟩ := r
    cases hp : readPort? ds with
    | none => simp [hp]
    | some p =>
      obtain ⟨rfl, -⟩ := eq_append_of_splitLast h
      simp [hp]

/-- A text that ends in a colon and a readable port is cut there. -/
theorem splitPort_append {ds : List Char} {p : Nat} (host : List Char) (h : readPort? ds = some p) :
    splitPort (host ++ ':' :: ds) = (host, some p) := by
  -- a port holds no colon, so the colon before it is the last one
  have hcolon : ':' ∉ ds := not_mem_of_readPort? h (by decide)
  rw [splitPort_eq_readPort?, splitLast_append host hcolon]
  simp only [h]

/-- **A port is read exactly when the text ends in a colon and a port.** -/
theorem splitPort_eq_some_iff {cs host : List Char} {p : Nat} :
    splitPort cs = (host, some p) ↔ ∃ ds, cs = host ++ ':' :: ds ∧ readPort? ds = some p := by
  constructor
  · intro h
    rw [splitPort_eq_readPort?] at h
    split at h
    · rename_i before ds hs
      split at h
      · rename_i q hq
        obtain ⟨rfl, rfl⟩ : before = host ∧ q = p := by simpa using h
        exact ⟨ds, (splitLast_eq_some_iff.mp hs).1, hq⟩
      · simp at h
    · simp at h
  · rintro ⟨ds, rfl, h⟩
    exact splitPort_append host h

/-- Where no port is read, all of the text is the host. -/
theorem splitPort_of_eq_none {cs : List Char} (h : (splitPort cs).2 = none) :
    splitPort cs = (cs, none) := by
  rw [splitPort_eq_readPort?] at h ⊢
  split
  · split
    · simp_all
    · rfl
  · rfl

/-- User information is dropped from the text before an end that is free of at signs. -/
theorem dropUserInfo_append (cs : List Char) {tail : List Char} (h : '@' ∉ tail) :
    dropUserInfo (cs ++ tail) = dropUserInfo cs ++ tail := by
  cases hs : splitLast '@' cs with
  | none =>
    have hcs : '@' ∉ cs := splitLast_eq_none_iff.mp hs
    rw [dropUserInfo_of_not_mem hcs, dropUserInfo_of_not_mem (by simp [hcs, h])]
  | some r =>
    obtain ⟨info, rest⟩ := r
    obtain ⟨rfl, hrest⟩ := eq_append_of_splitLast hs
    have hno : '@' ∉ rest ++ tail := by simp [hrest, h]
    rw [List.append_assoc, List.cons_append, dropUserInfo, dropUserInfo, splitLast_append _ hno,
      splitLast_append _ hrest]

/-- What is left after the user information holds no at sign. -/
theorem not_mem_dropUserInfo (cs : List Char) : '@' ∉ dropUserInfo cs := by
  unfold dropUserInfo
  split
  · rename_i info rest hs
    exact (splitLast_eq_some_iff.mp hs).2
  · rename_i hs
    exact splitLast_eq_none_iff.mp hs

namespace Authority

/-- The characters of the host come from the text. -/
theorem mem_of_mem_host {c : Char} {raw : String} (h : c ∈ (parse raw).host.toList) :
    c ∈ raw.toList := by
  have hc : c ∈ (splitPort (dropUserInfo raw.toList)).1 := by simpa [parse] using h
  exact (isSuffix_dropUserInfo _).subset ((isPrefix_splitPort _).subset hc)

/-- The host holds no at sign: what stands before one is user information. -/
theorem not_mem_host_at (raw : String) : '@' ∉ (parse raw).host.toList := by
  intro h
  have h : '@' ∈ (splitPort (dropUserInfo raw.toList)).1 := by simpa [parse] using h
  exact not_mem_dropUserInfo _ ((isPrefix_splitPort _).subset h)

/-- A text without an at sign is cut before its port alone. -/
theorem parse_of_not_mem_at {s : String} (hat : '@' ∉ s.toList) :
    parse s = ⟨s, String.ofList (splitPort s.toList).1, (splitPort s.toList).2⟩ := by
  rw [parse, dropUserInfo_of_not_mem hat]

/-- **A text followed by a colon and a printed port is read as host and port**, whatever colons
the text itself holds. -/
theorem parse_append_port {host : String} {port : Nat} (hat : '@' ∉ host.toList)
    (hp : port ≤ 65535) :
    parse (host ++ ":" ++ toString port) =
      ⟨host ++ ":" ++ toString port, host, some port⟩ := by
  have hl : (host ++ ":" ++ toString port).toList =
      host.toList ++ ':' :: (toString port).toList := by
    simp
  have hno : '@' ∉ host.toList ++ ':' :: (toString port).toList := by
    intro hm
    rcases List.mem_append.mp hm with hm | hm
    · exact hat hm
    · rcases List.mem_cons.mp hm with hm | hm
      · exact absurd hm (by decide)
      · exact absurd (isDigit_of_mem_toString hm) (by decide)
  rw [parse_of_not_mem_at (by rwa [hl]), hl, splitPort_append _ (readPort?_toString hp),
    String.ofList_toList]

/-- A text with neither an at sign nor a colon is a host. -/
theorem parse_of_not_mem_colon {host : String} (hat : '@' ∉ host.toList)
    (hcolon : ':' ∉ host.toList) : parse host = ⟨host, host, none⟩ := by
  rw [parse_of_not_mem_at hat, splitPort, splitLast_eq_none_iff.mpr hcolon, String.ofList_toList]

end Authority

end TargetUri
