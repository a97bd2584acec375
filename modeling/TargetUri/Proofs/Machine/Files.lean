import TargetUri.Machine.Files

set_option autoImplicit false

/-!
# What file operations change

Each operation is described by what is found at every place after it: writing, removing and making
directories change what they name and nothing else. A place can be reached when every place above it
is a directory. A path that can be walked leads to the place that its text says, and it does so on
every tree with the same directories.

## Main definitions

* `TargetUri.FileTree.SameDirectories` — trees with the same directories.

## Main results

* `TargetUri.FileTree.blocked?_eq_none_iff` — when a place can be reached.
* `TargetUri.FileTree.locate_eq_ok` — where a path leads that can be walked.
* `TargetUri.FileTree.SameDirectories.locate_eq_ok` — the directories alone decide it.
* `TargetUri.FileTree.readPath_of_writable` — what has been written is read.
* `TargetUri.Device.node?_of_makeDirectories` — making directories only adds directories.
-/

namespace TargetUri.FileTree

variable {t u : FileTree} {p q : Place}

/-! ## Places one at a time -/

/-- The root is a directory. -/
theorem node?_nil (t : FileTree) : t.node? [] = some .directory := rfl

/-- What is listed at a place when another has been removed from the list. -/
theorem lookup_erase (t : FileTree) (p q : Place) :
    (t.erase p).lookup q = if q = p then none else t.lookup q := by
  induction t with
  | nil => simp [erase]
  | cons e t ih =>
    obtain ⟨r, n⟩ := e
    simp only [erase] at ih ⊢
    by_cases hr : r = p
    · subst hr
      rw [List.filter_cons_of_neg (by simp), ih]
      by_cases hq : q = r
      · simp [hq]
      · simp [hq, List.lookup_cons, beq_false_of_ne hq]
    · rw [List.filter_cons_of_pos (by simp [hr]), List.lookup_cons, List.lookup_cons, ih]
      by_cases hq : q = r
      · subst hq
        simp [hr]
      · simp [beq_false_of_ne hq]

/-- Nothing is at a place that has been removed. -/
theorem node?_erase_self (t : FileTree) (hp : p ≠ []) : (t.erase p).node? p = none := by
  rw [node?, if_neg hp, lookup_erase, if_pos rfl]

/-- Removing a place leaves the others as they are. -/
theorem node?_erase_of_ne (t : FileTree) (h : q ≠ p) : (t.erase p).node? q = t.node? q := by
  rw [node?, node?, lookup_erase, if_neg h]

/-- What has been put at a place is there. -/
theorem node?_set_self (t : FileTree) (hp : p ≠ []) (n : FileNode) :
    (t.set p n).node? p = some n := by
  rw [node?, if_neg hp, set, List.lookup_cons_self]

/-- Putting something at a place leaves the others as they are. -/
theorem node?_set_of_ne (t : FileTree) (h : q ≠ p) (n : FileNode) :
    (t.set p n).node? q = t.node? q := by
  rw [node?, node?, set, List.lookup_cons, beq_false_of_ne h, lookup_erase, if_neg h]

/-! ## Places that can be reached -/

/-- Nothing is in the way to a place below another when every place between them is a directory. -/
theorem blocked?_below_eq_none_iff (t : FileTree) (above p : Place) :
    t.blocked? above p = none ↔
      ∀ q r, q ≠ [] → r ≠ [] → p = q ++ r → t.node? (above ++ q) = some .directory := by
  fun_induction blocked? t above p with
  | case1 above =>
    refine iff_of_true rfl fun q r hq _ hp => ?_
    exact absurd (List.append_eq_nil_iff.mp hp.symm).1 hq
  | case2 above name =>
    refine iff_of_true rfl fun q r hq hr hp => ?_
    have hlen := congrArg List.length hp
    have hq := List.length_pos_iff.mpr hq
    have hr := List.length_pos_iff.mpr hr
    simp only [List.length_cons, List.length_nil, List.length_append] at hlen
    omega
  | case3 above name rest hrest hnode ih =>
    rw [ih]
    constructor
    · intro h q r hq hr hp
      obtain ⟨name', q, rfl⟩ := List.exists_cons_of_ne_nil hq
      obtain ⟨rfl, rfl⟩ := List.cons.inj hp
      by_cases hq' : q = []
      · rw [hq', hnode]
      · rw [List.append_cons]
        exact h q r hq' hr rfl
    · rintro h q r - hr rfl
      rw [← List.append_cons]
      exact h (name :: q) r (List.cons_ne_nil _ _) hr rfl
  | case4 above name rest hrest n hdir hnode =>
    refine iff_of_false nofun fun h => ?_
    have hway := h [name] rest (List.cons_ne_nil _ _) (fun hnil => hrest hnil) rfl
    exact hdir (Option.some.inj (hnode.symm.trans hway))
  | case5 above name rest hrest hnode =>
    refine iff_of_false nofun fun h => ?_
    have hway := h [name] rest (List.cons_ne_nil _ _) (fun hnil => hrest hnil) rfl
    cases hnode.symm.trans hway

/-- A place can be reached when every place above it is a directory. -/
theorem blocked?_eq_none_iff (t : FileTree) (p : Place) :
    t.blocked? [] p = none ↔
      ∀ q r, q ≠ [] → r ≠ [] → p = q ++ r → t.node? q = some .directory :=
  t.blocked?_below_eq_none_iff [] p

/-- What is found is there, and can be reached. -/
theorem find_eq_ok_iff {n : FileNode} :
    t.find p = .ok n ↔ t.blocked? [] p = none ∧ t.node? p = some n := by
  unfold find
  cases t.blocked? [] p <;> cases t.node? p <;> simp

/-- What is found and is no directory is none. -/
theorem node?_ne_directory {n : FileNode} (h : t.find p = .ok n) (hn : n ≠ .directory) :
    t.node? p ≠ some .directory := by
  rw [(find_eq_ok_iff.mp h).2]
  exact fun hdir => hn (Option.some.inj hdir)

/-- What is read is the content of a regular file that is found. -/
theorem read_eq_ok_iff {content : Bytes} :
    t.read p = .ok content ↔ t.find p = .ok (.file content) := by
  unfold read
  split <;> simp_all

/-! ## Trees with the same directories -/

/-- Two trees have the same directories. -/
def SameDirectories (t u : FileTree) : Prop :=
  ∀ q, t.node? q = some .directory ↔ u.node? q = some .directory

namespace SameDirectories

/-- A tree has its own directories. -/
theorem refl (t : FileTree) : t.SameDirectories t := fun _ => Iff.rfl

/-- Having the same directories goes from tree to tree. -/
theorem trans {v : FileTree} (h : t.SameDirectories u) (h' : u.SameDirectories v) :
    t.SameDirectories v := fun q => (h q).trans (h' q)

/-- Having the same directories goes both ways. -/
theorem symm (h : t.SameDirectories u) : u.SameDirectories t := fun q => (h q).symm

/-- The same places can be reached when the directories are the same. -/
theorem blocked?_eq_none_iff (h : t.SameDirectories u) (p : Place) :
    t.blocked? [] p = none ↔ u.blocked? [] p = none := by
  simp only [FileTree.blocked?_eq_none_iff, h _]

/-- The same is found where the same is, when the directories are the same. -/
theorem find_eq_ok_iff (h : t.SameDirectories u) (hp : t.node? p = u.node? p) {n : FileNode} :
    t.find p = .ok n ↔ u.find p = .ok n := by
  rw [FileTree.find_eq_ok_iff, FileTree.find_eq_ok_iff, h.blocked?_eq_none_iff, hp]

end SameDirectories

/-- A place that holds no directory is not the root. -/
theorem ne_nil_of_node? (hp : t.node? p ≠ some .directory) : p ≠ [] := by
  rintro rfl
  exact hp rfl

/-- Putting a file where no directory is changes no directories. -/
theorem sameDirectories_set (hp : t.node? p ≠ some .directory) {n : FileNode}
    (hn : n ≠ .directory) : t.SameDirectories (t.set p n) := by
  intro q
  by_cases hq : q = p
  · subst hq
    rw [node?_set_self t (ne_nil_of_node? hp)]
    simp [hp, hn]
  · rw [node?_set_of_ne t hq]

/-- Removing what is no directory changes no directories. -/
theorem sameDirectories_erase (hp : t.node? p ≠ some .directory) :
    t.SameDirectories (t.erase p) := by
  intro q
  by_cases hq : q = p
  · subst hq
    rw [node?_erase_self t (ne_nil_of_node? hp)]
    simp [hp]
  · rw [node?_erase_of_ne t hq]

/-! ## Writing, removing, making directories -/

/-- What is removed is found, and is no directory. -/
theorem unlink_eq_ok_iff :
    t.unlink p = .ok u ↔ ∃ n, t.find p = .ok n ∧ n ≠ .directory ∧ u = t.erase p := by
  unfold unlink
  cases t.find p with
  | error e => simp
  | ok n => cases n <;> simp [eq_comm]

/-- There is nothing to be removed at a place that can be reached and is empty. -/
theorem unlink_eq_noEntry (hway : t.blocked? [] p = none) (hnone : t.node? p = none) :
    t.unlink p = .error .noEntry := by
  have hfind : t.find p = .error .noEntry := by
    unfold find
    rw [hway]
    dsimp only
    rw [hnone]
  unfold unlink
  rw [hfind]

/-- Nothing is found at a place that has been removed. -/
theorem find_erase_self (hp : t.node? p ≠ some .directory) (n : FileNode) :
    (t.erase p).find p ≠ .ok n := by
  rw [Ne, find_eq_ok_iff, node?_erase_self t (ne_nil_of_node? hp)]
  exact fun h => nomatch h.2

/-! ## Paths -/

/-- The names of a place, walked as the text of a path. -/
theorem foldl_step (p : Place) (ns : List (List Char)) :
    ns.foldl Path.step p = (ns.foldl Path.enter p.reverse).reverse := by
  induction ns generalizing p with
  | nil => rw [List.foldl_nil, List.foldl_nil, List.reverse_reverse]
  | cons name ns ih =>
    have hstep : (Path.step p name).reverse = Path.enter p.reverse name := by
      unfold Path.step Path.enter
      split
      · rfl
      · split
        · rw [List.tail_reverse]
        · rw [List.reverse_append, List.reverse_singleton, List.singleton_append]
    rw [List.foldl_cons, List.foldl_cons, ih, hstep]

/-- Empty names lead nowhere. -/
theorem foldl_step_filter (p : Place) (ns : List (List Char)) :
    (ns.filter (· ≠ [])).foldl Path.step p = ns.foldl Path.step p := by
  induction ns generalizing p with
  | nil => rfl
  | cons name ns ih =>
    by_cases hname : name = []
    · rw [List.filter_cons_of_neg (by simp [hname]), List.foldl_cons, ih, hname]
      rfl
    · rw [List.filter_cons_of_pos (by simp [hname]), List.foldl_cons, List.foldl_cons, ih]

/-- **The way of a path and then its last name lead to the place that its text says.** -/
theorem place_eq (cwd path : String) :
    ((Path.components path).getLast?.map
      (Path.step ((Path.way cwd path).foldl Path.step []))).getD
        ((Path.way cwd path).foldl Path.step []) = Path.place cwd path := by
  have hplace : Path.place cwd path =
      (Path.names path).foldl Path.step
        ((if Path.isAbsolute path then [] else Path.names cwd).foldl Path.step []) := by
    rw [← List.foldl_append, foldl_step, Path.place, Path.normalize, Path.append]
    split <;> rfl
  rw [hplace, ← foldl_step_filter _ (Path.names path), Path.way, List.foldl_append]
  change _ = (Path.components path).foldl Path.step _
  cases hlast : (Path.components path).getLast? with
  | none => rw [List.getLast?_eq_none_iff.mp hlast]; rfl
  | some name =>
    obtain ⟨before, hsplit⟩ := List.getLast?_eq_some_iff.mp hlast
    rw [hsplit, List.dropLast_concat, List.foldl_append]
    rfl

/-- One more name from a directory that can be reached leads to a place that can be reached. -/
theorem blocked?_step (hway : t.blocked? [] p = none) (hdir : t.node? p = some .directory)
    (name : List Char) : t.blocked? [] (Path.step p name) = none := by
  rw [blocked?_eq_none_iff] at hway ⊢
  unfold Path.step
  split
  · exact hway
  · split
    · intro q r hq hr hp
      have hne : p ≠ [] := by
        rintro rfl
        exact hq (List.append_eq_nil_iff.mp hp.symm).1
      refine hway q (r ++ [p.getLast hne]) hq (by simp) ?_
      rw [← List.append_assoc, ← hp, List.dropLast_concat_getLast]
    · intro q r hq hr hp
      rcases List.append_eq_append_iff.mp hp with ⟨s, rfl, hs⟩ | ⟨s, rfl, hs⟩
      · cases s with
        | nil => rwa [List.append_nil]
        | cons c s =>
          obtain ⟨-, hnil⟩ := List.cons.inj hs
          exact absurd (List.append_eq_nil_iff.mp hnil.symm).2 hr
      · by_cases hs' : s = []
        · rw [hs', List.append_nil] at hdir
          exact hdir
        · exact hway q s hq hs' rfl

/-- What is walked to from a directory that can be reached is where the names lead, a directory that
can be reached. -/
theorem walk_eq_ok {ns : List (List Char)} (hway : t.blocked? [] p = none)
    (hdir : t.node? p = some .directory) (h : t.walk p ns = .ok q) :
    q = ns.foldl Path.step p ∧ t.blocked? [] q = none ∧ t.node? q = some .directory := by
  fun_induction walk t p ns with
  | case1 p => cases h; exact ⟨rfl, hway, hdir⟩
  | case2 p name rest hnode ih => exact ih (blocked?_step hway hdir name) hnode h
  | case3 => cases h
  | case4 => cases h

/-- When a path leads somewhere: its text is fit for a path, and its way can be walked. -/
theorem locate_eq_ok_iff {cwd path : String} {l : Located} :
    t.locate cwd path = .ok l ↔ '\x00' ∉ path.toList ∧ path.toList ≠ [] ∧
      ∃ p, t.walk [] (Path.way cwd path) = .ok p ∧
        l = ⟨((Path.components path).getLast?.map (Path.step p)).getD p,
          Path.endsInSlash path⟩ := by
  unfold locate
  by_cases hnul : '\x00' ∈ path.toList
  · simp [hnul]
  · by_cases hempty : path.toList = []
    · simp [hempty]
    · rw [if_neg hnul, if_neg hempty]
      cases t.walk [] (Path.way cwd path) <;> simp [hnul, hempty, eq_comm]

/-- **Where a path leads that can be walked**: to the place that its text says, which can be
reached. -/
theorem locate_eq_ok {cwd path : String} {l : Located} (h : t.locate cwd path = .ok l) :
    l.place = Path.place cwd path ∧ l.slash = Path.endsInSlash path ∧
      t.blocked? [] (Path.place cwd path) = none := by
  obtain ⟨-, -, p, hwalk, rfl⟩ := locate_eq_ok_iff.mp h
  obtain ⟨rfl, hway, hdir⟩ := walk_eq_ok rfl rfl hwalk
  refine ⟨place_eq cwd path, rfl, ?_⟩
  rw [← place_eq]
  cases (Path.components path).getLast? with
  | none => exact hway
  | some name => exact blocked?_step hway hdir name

/-- The same names can be walked when the directories are the same. -/
theorem SameDirectories.walk_eq_ok (h : t.SameDirectories u) {ns : List (List Char)}
    (hwalk : t.walk p ns = .ok q) : u.walk p ns = .ok q := by
  fun_induction walk t p ns with
  | case1 p => exact hwalk
  | case2 p name rest hnode ih =>
    rw [walk, (h _).mp hnode]
    exact ih hwalk
  | case3 => cases hwalk
  | case4 => cases hwalk

/-- **The directories alone decide where a path leads.** -/
theorem SameDirectories.locate_eq_ok (h : t.SameDirectories u) {cwd path : String} {l : Located}
    (hlocate : t.locate cwd path = .ok l) : u.locate cwd path = .ok l := by
  obtain ⟨hnul, hempty, p, hwalk, hl⟩ := locate_eq_ok_iff.mp hlocate
  exact locate_eq_ok_iff.mpr ⟨hnul, hempty, p, h.walk_eq_ok hwalk, hl⟩

/-- An operation on the file of a path has a result when it has one on the place that the path leads
to. -/
theorem atPath_eq_ok_iff {α : Type} {cwd path : String} {operation : Place → Except SystemError α}
    {a : α} : t.atPath cwd path operation = .ok a ↔
      t.locate cwd path = .ok ⟨Path.place cwd path, false⟩ ∧
        operation (Path.place cwd path) = .ok a := by
  unfold atPath
  cases hlocate : t.locate cwd path with
  | error e => simp
  | ok l =>
    obtain ⟨hplace, -, -⟩ := t.locate_eq_ok hlocate
    obtain ⟨p, slash⟩ := l
    obtain rfl : p = Path.place cwd path := hplace
    cases slash <;> simp

/-- The same is read at the end of a path when the directories are the same and so is what can be
read of regular files. -/
theorem SameDirectories.readPath_eq_ok (h : t.SameDirectories u) {cwd path : String}
    {content : Bytes} (hread : t.read (Path.place cwd path) = .ok content →
      u.read (Path.place cwd path) = .ok content)
    (hpath : t.readPath cwd path = .ok content) : u.readPath cwd path = .ok content := by
  obtain ⟨hlocate, hthere⟩ := atPath_eq_ok_iff.mp hpath
  exact atPath_eq_ok_iff.mpr ⟨h.locate_eq_ok hlocate, hread hthere⟩

/-- What can be written to is at the place that the path says, and no directory. -/
theorem writable_eq_ok {cwd path : String} (h : t.writable cwd path = .ok p) :
    t.locate cwd path = .ok ⟨p, false⟩ ∧ p = Path.place cwd path ∧
      t.node? p ≠ some .directory := by
  unfold writable at h
  split at h
  · cases h
  · cases h
  · rename_i q hlocate
    split at h
    · cases h
    · cases h
    · rename_i hdir _
      cases h
      exact ⟨hlocate, (locate_eq_ok hlocate).1, hdir⟩

/-- **What has been written is read.** -/
theorem readPath_of_writable {cwd path : String} (h : t.writable cwd path = .ok p)
    (content : Bytes) : (t.set p (.file content)).readPath cwd path = .ok content := by
  obtain ⟨hlocate, rfl, hdir⟩ := writable_eq_ok h
  have hsame := sameDirectories_set hdir (n := .file content) nofun
  obtain ⟨-, -, hway⟩ := locate_eq_ok hlocate
  refine atPath_eq_ok_iff.mpr ⟨hsame.locate_eq_ok hlocate, ?_⟩
  rw [read_eq_ok_iff, find_eq_ok_iff]
  exact ⟨(hsame.blocked?_eq_none_iff _).mp hway, node?_set_self t (ne_nil_of_node? hdir) _⟩

/-- Putting something twice at a place is putting it once. -/
theorem set_set (t : FileTree) (p : Place) (n n' : FileNode) :
    (t.set p n).set p n' = t.set p n' := by
  simp [set, erase, List.filter_filter]

/-- Putting something at a place is the same after removing what is there. -/
theorem set_erase (t : FileTree) (p : Place) (n : FileNode) : (t.erase p).set p n = t.set p n := by
  simp [set, erase, List.filter_filter]

end TargetUri.FileTree

namespace TargetUri.Device

variable {t : FileTree}

/-- What has been added since one directory was made has been added since before it was made. -/
theorem added_of_set_directory {u : FileTree} {p q : Place} (hnone : t.node? p = none)
    (h : u.node? q = (t.set p .directory).node? q ∨
      (t.set p .directory).node? q = none ∧ u.node? q = some .directory) :
    u.node? q = t.node? q ∨ t.node? q = none ∧ u.node? q = some .directory := by
  by_cases hq : q = p
  · subst hq
    have hmade := FileTree.node?_set_self t
      (FileTree.ne_nil_of_node? (by rw [hnone]; exact nofun)) .directory
    rcases h with hsame | ⟨hgone, -⟩
    · exact .inr ⟨hnone, hsame.trans hmade⟩
    · cases hgone.symm.trans hmade
  · rwa [FileTree.node?_set_of_ne t hq] at h

/-- **Making directories leaves what is there and adds directories**, also where it fails. -/
theorem node?_of_makeDirectories (limit : Option (Nat × DeviceFault)) (t : FileTree) (p : Place)
    (ns : List (List Char)) (q : Place) :
    (makeDirectories limit t p ns).2.node? q = t.node? q ∨
      t.node? q = none ∧ (makeDirectories limit t p ns).2.node? q = some .directory := by
  fun_induction makeDirectories limit t p ns with
  | case1 => exact .inl rfl
  | case2 _ _ _ _ _ _ ih => exact ih
  | case3 => exact .inl rfl
  | case4 => exact .inl rfl
  | case5 _ _ _ _ _ _ hnone ih => exact added_of_set_directory hnone ih
  | case6 _ _ _ _ hnone ih => exact added_of_set_directory hnone ih

/-- Making directories leaves the regular files as they are, and makes none. -/
theorem file_of_makeDirectories (limit : Option (Nat × DeviceFault)) (t : FileTree) (p : Place)
    (ns : List (List Char)) (q : Place) (content : Bytes) :
    (makeDirectories limit t p ns).2.node? q = some (.file content) ↔
      t.node? q = some (.file content) := by
  rcases node?_of_makeDirectories limit t p ns q with hsame | ⟨hnone, hdir⟩
  · rw [hsame]
  · rw [hnone, hdir]
    exact iff_of_false nofun nofun

/-- Making the directories of a path leaves the regular files as they are, and makes none. -/
theorem file_of_makeWay {d : Device} {u : FileTree} {cwd path : String}
    {result : Except SystemError Unit} (h : d.makeWay t cwd path = (result, u)) (q : Place)
    (content : Bytes) :
    u.node? q = some (.file content) ↔ t.node? q = some (.file content) := by
  unfold makeWay at h
  split at h
  · cases h
    rfl
  · obtain rfl : (makeDirectories d.making t [] (Path.way cwd path)).2 = u := congrArg Prod.snd h
    exact file_of_makeDirectories _ t _ _ q content

/-- A file that has been opened can be written to, and is empty. -/
theorem openFile_eq_ok {d : Device} {u : FileTree} {p : Place} {cwd path : String}
    (h : d.openFile t cwd path = .ok (p, u)) :
    t.writable cwd path = .ok p ∧ u = t.set p (.file []) := by
  unfold openFile at h
  split at h
  · cases h
  · split at h
    · cases h
    · rename_i hwritable
      cases h
      exact ⟨hwritable, rfl⟩

/-- What is stored in a file that has just been opened takes the place of what was there. -/
theorem store_of_openFile {d : Device} {u : FileTree} {p : Place} {cwd path : String}
    (h : d.openFile t cwd path = .ok (p, u)) (content : Bytes) :
    d.store u p content = d.store t p content := by
  obtain ⟨-, rfl⟩ := openFile_eq_ok h
  simp only [store, FileTree.set_set]

end TargetUri.Device
