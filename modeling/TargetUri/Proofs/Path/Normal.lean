import Mathlib.Logic.Relation
import TargetUri.Path
import TargetUri.Proofs.Text.Fields

set_option autoImplicit false

/-!
# The normal form of a path

A path leads from the root to a place along its names: an empty name and `.` lead nowhere, and `..`
leads back over the name before it, or nowhere from the root. A path in which there is nothing of
the kind is normal, and each path can be simplified to exactly one normal path.

## Main definitions

* `TargetUri.Path.IsName` — what may stand between the slashes of a normal path.
* `TargetUri.Path.IsNormal` — a normal path.
* `TargetUri.Path.Simplifies` — one name, or a name and the way back, is left out.
* `TargetUri.Path.IsNormalFormOf` — a normal path that leads where another path does.
* `TargetUri.Path.climb` — how far names lead up from where they start.
* `TargetUri.Path.relativeTo` — a path after the directory that it is taken relative to.

## Main results

* `TargetUri.Path.isNormalFormOf_iff` — each path has one normal form, which is computed.
* `TargetUri.Path.normalize_append` — where names lead from a place: up as far as they climb, and
  down from there.
* `TargetUri.Path.isNormal_resolve`, `TargetUri.Path.resolve_of_isNormal` — paths in a row have a
  normal path, and a normal path is its own.
-/

namespace TargetUri

namespace Path

/-! ## Names -/

/-- What may stand between the slashes of a normal path: a text that has a character, is neither
`.` nor `..`, and holds no slash. -/
structure IsName (name : List Char) : Prop where
  /-- there is a character -/
  ne_nil : name ≠ []
  /-- it is not the name of the place itself -/
  ne_here : name ≠ ['.']
  /-- it is not the name of the place above -/
  ne_above : name ≠ ['.', '.']
  /-- it stands between slashes -/
  no_slash : '/' ∉ name

/-- A text between slashes is a name, or it is empty, `.` or `..`. -/
theorem name_cases {n : List Char} (h : '/' ∉ n) :
    (n = [] ∨ n = ['.']) ∨ n = ['.', '.'] ∨ IsName n := by
  by_cases hstay : n = [] ∨ n = ['.']
  · exact Or.inl hstay
  · obtain ⟨hne, hhere⟩ := not_or.mp hstay
    by_cases habove : n = ['.', '.']
    · exact Or.inr (Or.inl habove)
    · exact Or.inr (Or.inr ⟨hne, hhere, habove, h⟩)

/-- The names of a path hold no slash. -/
theorem slash_not_mem_of_mem_names {path : String} {n : List Char} (h : n ∈ names path) :
    '/' ∉ n :=
  not_mem_of_mem_splitOn h

/-- The names of a path that is put behind a directory and a slash. -/
theorem names_append_slash (dir path : String) :
    names (dir ++ "/" ++ path) = names dir ++ names path := by
  unfold names
  rw [String.toList_append, String.toList_append, List.append_assoc]
  exact List.splitOn_append_cons_self dir.toList path.toList

/-! ## Entering names -/

/-- An empty name and `.` lead nowhere. -/
theorem enter_of_stays {n : List Char} (h : n = [] ∨ n = ['.']) (s : Place) : enter s n = s :=
  if_pos h

/-- `..` leads to the place above. -/
@[simp]
theorem enter_above (s : Place) : enter s ['.', '.'] = s.tail := rfl

/-- A name leads down. -/
theorem IsName.enter {n : List Char} (h : IsName n) (s : Place) : enter s n = n :: s := by
  rw [Path.enter, if_neg (not_or.mpr ⟨h.ne_nil, h.ne_here⟩), if_neg h.ne_above]

/-- Names lead down one after the other. -/
theorem foldl_enter_of_isName {p : Place} (h : ∀ n ∈ p, IsName n) (s : Place) :
    p.foldl enter s = p.reverse ++ s := by
  induction p generalizing s with
  | nil => rfl
  | cons n p ih =>
    obtain ⟨hn, hp⟩ := List.forall_mem_cons.mp h
    rw [List.foldl_cons, hn.enter, ih hp, List.reverse_cons, List.append_assoc,
      List.singleton_append]

/-- Names behind others are the last part of the place that is led to. -/
theorem normalize_append_of_isName (a : List (List Char)) {p : Place} (h : ∀ n ∈ p, IsName n) :
    normalize (a ++ p) = normalize a ++ p := by
  rw [normalize, List.foldl_append, foldl_enter_of_isName h, List.reverse_append,
    List.reverse_reverse]
  rfl

/-- A place is where its own names lead. -/
theorem normalize_of_isName {p : Place} (h : ∀ n ∈ p, IsName n) : normalize p = p :=
  normalize_append_of_isName [] h

/-- What texts between slashes lead to is a place of names. -/
theorem isName_of_mem_normalize {ns : List (List Char)} (h : ∀ n ∈ ns, '/' ∉ n) :
    ∀ n ∈ normalize ns, IsName n := by
  have hkeep : ∀ s : Place, (∀ n ∈ s, IsName n) → ∀ n ∈ ns.foldl enter s, IsName n := by
    induction ns with
    | nil => exact fun s hs => hs
    | cons m ns ih =>
      obtain ⟨hm, hns⟩ := List.forall_mem_cons.mp h
      intro s hs
      rw [List.foldl_cons]
      apply ih hns
      rcases name_cases hm with hstay | rfl | hname
      · rw [enter_of_stays hstay]
        exact hs
      · rw [enter_above]
        exact fun n hn => hs n (List.mem_of_mem_tail hn)
      · rw [hname.enter]
        exact List.forall_mem_cons.mpr ⟨hname, hs⟩
  intro n hn
  exact hkeep [] (by simp) n (List.mem_reverse.mp hn)

/-! ## Names from a place -/

/-- How far names lead up from where they start, when they start at a depth below that. -/
def climbFrom (depth : Nat) : List (List Char) → Nat
  | [] => 0
  | n :: ns =>
    if n = [] ∨ n = ['.'] then climbFrom depth ns
    else if n = ['.', '.'] then
      if depth = 0 then climbFrom 0 ns + 1 else climbFrom (depth - 1) ns
    else climbFrom (depth + 1) ns

/-- How far names lead up from where they start. -/
def climb (ns : List (List Char)) : Nat := climbFrom 0 ns

/-- What lies below a place is left as it is but for as many names as are climbed.

**Proof sketch.** Induction on the names. Only `..` at depth zero touches what lies below, of which
it takes away one name; everything else changes the names above, and the depth with them. -/
theorem foldl_enter_append (ns : List (List Char)) (s t : Place) :
    ns.foldl enter (s ++ t) = ns.foldl enter s ++ t.drop (climbFrom s.length ns) := by
  induction ns generalizing s t with
  | nil => simp [climbFrom]
  | cons n ns ih =>
    rw [List.foldl_cons, List.foldl_cons, climbFrom]
    by_cases hstay : n = [] ∨ n = ['.']
    · rw [if_pos hstay, enter_of_stays hstay, enter_of_stays hstay, ih]
    · by_cases habove : n = ['.', '.']
      · subst habove
        rw [if_neg hstay, if_pos rfl, enter_above, enter_above]
        cases s with
        | nil =>
          have hroot := ih [] t.tail
          rw [List.nil_append, List.length_nil, List.drop_tail] at hroot
          simpa using hroot
        | cons m s => simpa using ih s t
      · have hname : ∀ s : Place, enter s n = n :: s := by
          intro s
          rw [enter, if_neg hstay, if_neg habove]
        rw [if_neg hstay, if_neg habove, hname, hname]
        exact ih (n :: s) t

/-- **Where names lead from a place**: up as far as they climb, and down from there. -/
theorem normalize_append (a b : List (List Char)) :
    normalize (a ++ b) =
      (normalize a).take ((normalize a).length - climb b) ++ normalize b := by
  have hfold := foldl_enter_append b [] (a.foldl enter [])
  rw [List.nil_append, List.length_nil] at hfold
  unfold normalize climb
  rw [List.foldl_append, hfold, List.reverse_append, List.reverse_drop, List.length_reverse]

/-- The place that names lead to from another is the one that they lead to from the root just when
they climb all the way. -/
theorem normalize_append_eq_iff {a b : List (List Char)} :
    normalize (a ++ b) = normalize b ↔ (normalize a).length ≤ climb b := by
  rw [normalize_append, List.append_left_eq_self, List.take_eq_nil_iff, Nat.sub_eq_zero_iff_le]
  refine ⟨?_, Or.inl⟩
  rintro (h | h)
  · exact h
  · simp [h]

/-! ## The path of a place -/

/-- The names between the slashes of the path of a place. -/
theorem names_ofPlace {p : Place} (h : ∀ n ∈ p, IsName n) :
    names (ofPlace p) = [] :: (if p = [] then [[]] else p) := by
  unfold names ofPlace
  rw [String.toList_ofList]
  have hfirst := List.splitOn_append_cons_self (a := '/') [] (['/'].intercalate p)
  rw [List.nil_append, List.splitOn_nil, List.singleton_append] at hfirst
  rw [hfirst]
  split
  · next hp => rw [hp, List.intercalate_nil, List.splitOn_nil]
  · next hp => rw [List.splitOn_intercalate '/' (fun n hn => (h n hn).no_slash) hp]

/-- **The path of a place leads there.** -/
theorem normalize_names_ofPlace {p : Place} (h : ∀ n ∈ p, IsName n) :
    normalize (names (ofPlace p)) = p := by
  rw [names_ofPlace h]
  split
  · next hp => rw [hp]; rfl
  · exact normalize_of_isName h

/-- Two places with the same path are the same. -/
theorem ofPlace_inj {p q : Place} (hp : ∀ n ∈ p, IsName n) (hq : ∀ n ∈ q, IsName n) :
    ofPlace p = ofPlace q ↔ p = q := by
  refine ⟨fun h => ?_, congrArg ofPlace⟩
  rw [← normalize_names_ofPlace hp, h, normalize_names_ofPlace hq]

/-- The path of the root is a slash, and that of no other place is. -/
theorem ofPlace_eq_root_iff {p : Place} (h : ∀ n ∈ p, IsName n) : ofPlace p = "/" ↔ p = [] :=
  ofPlace_inj h (by simp : ∀ n ∈ ([] : Place), IsName n)

/-- The path of a place below another but the root is that of the other, a slash and a name. -/
theorem ofPlace_concat {p : Place} (h : p ≠ []) (n : List Char) :
    ofPlace (p ++ [n]) = ofPlace p ++ "/" ++ String.ofList n := by
  rw [ofPlace, intercalate_concat h, ofPlace, ← String.toList_inj]
  simp

/-! ## Normal paths -/

/-- **A normal path**: it starts at the root, nothing between its slashes is empty, `.` or `..`, and
no slash ends it but that of the root. -/
structure IsNormal (path : String) : Prop where
  /-- it starts at the root -/
  absolute : path.toList.head? = some '/'
  /-- what stands behind a slash is a name -/
  segments : path = "/" ∨ ∀ n ∈ (names path).tail, n ≠ [] ∧ n ≠ ['.'] ∧ n ≠ ['.', '.']
  /-- a slash at the end is that of the root -/
  trailing : path.toList.getLast? = some '/' → path = "/"

/-- A path that ends in a slash has an empty name there. -/
theorem nil_mem_tail_names {path : String} (h : path.toList.getLast? = some '/') :
    [] ∈ (names path).tail := by
  obtain ⟨before, hbefore⟩ := List.getLast?_eq_some_iff.mp h
  have hnames : names path = before.splitOn '/' ++ [[]] := by
    unfold names
    rw [hbefore, List.splitOn_append_cons_self, List.splitOn_nil]
  rw [hnames, List.tail_append_of_ne_nil (List.splitOn_ne_nil _ _)]
  simp

/-- **Normal paths are the paths of places.** -/
theorem isNormal_iff {path : String} :
    IsNormal path ↔ ∃ p : Place, (∀ n ∈ p, IsName n) ∧ path = ofPlace p := by
  constructor
  · rintro ⟨habsolute, hsegments, -⟩
    rcases hsegments with rfl | hsegments
    · exact ⟨[], by simp, rfl⟩
    · obtain ⟨cs, hcs⟩ := List.head?_eq_some_iff.mp habsolute
      have hnames : names path = [] :: cs.splitOn '/' := by
        unfold names
        rw [hcs]
        exact List.splitOn_append_cons_self [] cs
      refine ⟨cs.splitOn '/', fun n hn => ?_, ?_⟩
      · rw [hnames, List.tail_cons] at hsegments
        obtain ⟨hne, hhere, habove⟩ := hsegments n hn
        have hmem : n ∈ names path := by
          rw [hnames]
          exact List.mem_cons_of_mem _ hn
        exact ⟨hne, hhere, habove, slash_not_mem_of_mem_names hmem⟩
      · rw [ofPlace, List.intercalate_splitOn, ← hcs, String.ofList_toList]
  · rintro ⟨p, hp, rfl⟩
    have hsegments : ofPlace p = "/" ∨ ∀ n ∈ (names (ofPlace p)).tail,
        n ≠ [] ∧ n ≠ ['.'] ∧ n ≠ ['.', '.'] := by
      by_cases hroot : p = []
      · exact Or.inl (by rw [hroot]; rfl)
      · refine Or.inr fun n hn => ?_
        rw [names_ofPlace hp, if_neg hroot, List.tail_cons] at hn
        exact ⟨(hp n hn).ne_nil, (hp n hn).ne_here, (hp n hn).ne_above⟩
    refine ⟨by simp [ofPlace], hsegments, fun hlast => hsegments.resolve_right fun h => ?_⟩
    exact (h [] (nil_mem_tail_names hlast)).1 rfl

/-- A normal path is the path of the place that it leads to. -/
theorem IsNormal.eq_ofPlace {path : String} (h : IsNormal path) :
    path = ofPlace (normalize (names path)) := by
  obtain ⟨p, hp, rfl⟩ := isNormal_iff.mp h
  rw [normalize_names_ofPlace hp]

/-! ## Normal forms -/

/-- **One simplification of the names on a path**: a name that leads nowhere is left out, or a name
and the way back over it. -/
inductive Simplifies : List (List Char) → List (List Char) → Prop
  /-- an empty name -/
  | blank (before after : List (List Char)) : Simplifies (before ++ [] :: after) (before ++ after)
  /-- the name of the place itself -/
  | here (before after : List (List Char)) :
    Simplifies (before ++ ['.'] :: after) (before ++ after)
  /-- a name and the way back -/
  | back {name : List Char} (before after : List (List Char)) : IsName name →
    Simplifies (before ++ name :: ['.', '.'] :: after) (before ++ after)
  /-- the way up from the root -/
  | root (after : List (List Char)) : Simplifies (['.', '.'] :: after) after

/-- A path and its normal form: a normal path that can be had from the same names by
simplification. -/
def IsNormalFormOf (form path : String) : Prop :=
  IsNormal form ∧ Relation.EqvGen Simplifies (names form) (names path)

/-- A simplification leads to the same place. -/
theorem Simplifies.normalize_eq {a b : List (List Char)} (h : Simplifies a b) :
    normalize a = normalize b := by
  unfold normalize
  cases h with
  | blank before after => simp [List.foldl_append, enter_of_stays]
  | here before after => simp [List.foldl_append, enter_of_stays]
  | back before after hname => simp [List.foldl_append, hname.enter]
  | root after => rfl

/-- Names that simplify to the same lead to the same place. -/
theorem normalize_eq_of_eqvGen {a b : List (List Char)} (h : Relation.EqvGen Simplifies a b) :
    normalize a = normalize b := by
  induction h with
  | rel a b h => exact h.normalize_eq
  | refl a => rfl
  | symm a b _ ih => exact ih.symm
  | trans a b c _ _ hab hbc => exact hab.trans hbc

/-- **Names simplify to the place that they lead to.**

**Proof sketch.** Induction on the names, behind a place that has been reached: a name that leads
nowhere is left out, `..` is left out with the last name of the place, or alone at the root, and any
other name is part of the place from then on. -/
theorem eqvGen_normalize {ns : List (List Char)} (h : ∀ n ∈ ns, '/' ∉ n) :
    Relation.EqvGen Simplifies ns (normalize ns) := by
  have hreach : ∀ s : Place, (∀ n ∈ s, IsName n) →
      Relation.EqvGen Simplifies (s.reverse ++ ns) (ns.foldl enter s).reverse := by
    induction ns with
    | nil =>
      intro s _
      rw [List.append_nil]
      exact .refl _
    | cons m ns ih =>
      obtain ⟨hm, hns⟩ := List.forall_mem_cons.mp h
      intro s hs
      rw [List.foldl_cons]
      rcases name_cases hm with hstay | rfl | hname
      · rw [enter_of_stays hstay]
        refine .trans _ _ _ (.rel _ _ ?_) (ih hns s hs)
        rcases hstay with rfl | rfl
        · exact .blank _ _
        · exact .here _ _
      · rw [enter_above]
        cases s with
        | nil => exact .trans _ _ _ (.rel _ _ (.root ns)) (ih hns [] hs)
        | cons n s =>
          obtain ⟨hn, hs⟩ := List.forall_mem_cons.mp hs
          refine .trans _ _ _ (.rel _ _ ?_) (ih hns s hs)
          rw [List.reverse_cons, List.append_assoc, List.singleton_append]
          exact .back _ _ hn
      · rw [hname.enter]
        have hnext := ih hns (m :: s) (List.forall_mem_cons.mpr ⟨hname, hs⟩)
        rwa [List.reverse_cons, List.append_assoc, List.singleton_append] at hnext
  exact hreach [] (by simp)

/-- **Each path has one normal form**, the path of the place that its names lead to. -/
theorem isNormalFormOf_iff {form path : String} :
    IsNormalFormOf form path ↔ form = ofPlace (normalize (names path)) := by
  have hnames : ∀ n ∈ normalize (names path), IsName n :=
    isName_of_mem_normalize fun n hn => slash_not_mem_of_mem_names hn
  constructor
  · rintro ⟨hnormal, hsame⟩
    rw [hnormal.eq_ofPlace, normalize_eq_of_eqvGen hsame]
  · rintro rfl
    refine ⟨isNormal_iff.mpr ⟨_, hnames, rfl⟩, ?_⟩
    -- the names of both simplify to the place
    have hform : Relation.EqvGen Simplifies (names (ofPlace (normalize (names path))))
        (normalize (names (ofPlace (normalize (names path))))) :=
      eqvGen_normalize fun n hn => slash_not_mem_of_mem_names hn
    rw [normalize_names_ofPlace hnames] at hform
    exact .trans _ _ _ hform
      (.symm _ _ (eqvGen_normalize fun n hn => slash_not_mem_of_mem_names hn))

/-! ## Paths in a row -/

/-- A path after the directory that it is taken relative to, if it does not start at the root. -/
def relativeTo (dir path : String) : String :=
  if isAbsolute path then path else dir ++ "/" ++ path

/-- The names of a path taken relative to a directory. -/
theorem append_names (dir path : String) :
    append (names dir) path = names (relativeTo dir path) := by
  unfold append relativeTo
  split
  · rfl
  · rw [names_append_slash]

/-- A path has the normal form of the path after its directory. -/
theorem resolve_singleton (cwd path : String) :
    resolve cwd [path] = ofPlace (normalize (names (relativeTo cwd path))) := by
  rw [resolve, List.foldl_cons, List.foldl_nil, append_names]

/-- **The path of paths in a row is normal.** -/
theorem isNormal_resolve (cwd : String) (paths : List String) : IsNormal (resolve cwd paths) := by
  refine isNormal_iff.mpr ⟨_, isName_of_mem_normalize ?_, rfl⟩
  have hkeep : ∀ ns : List (List Char), (∀ n ∈ ns, '/' ∉ n) →
      ∀ n ∈ paths.foldl append ns, '/' ∉ n := by
    induction paths with
    | nil => exact fun ns hns => hns
    | cons path paths ih =>
      intro ns hns
      rw [List.foldl_cons]
      apply ih
      unfold append
      split
      · exact fun n hn => slash_not_mem_of_mem_names hn
      · exact List.forall_mem_append.mpr ⟨hns, fun n hn => slash_not_mem_of_mem_names hn⟩
  exact hkeep _ fun n hn => slash_not_mem_of_mem_names hn

/-- **A normal path is its own**, whatever it is taken relative to. -/
theorem resolve_of_isNormal {path : String} (h : IsNormal path) (cwd : String) :
    resolve cwd [path] = path := by
  have habsolute : isAbsolute path := by rw [isAbsolute, h.absolute]; rfl
  rw [resolve_singleton, relativeTo, if_pos habsolute, ← h.eq_ofPlace]

end Path

end TargetUri
