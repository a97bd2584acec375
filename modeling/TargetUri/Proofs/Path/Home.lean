import TargetUri.Proofs.Path.Normal
import TargetUri.Proofs.Server.Opening

set_option autoImplicit false

/-!
# Paths in the home directory

A path that begins with `~/` is taken relative to the home directory, with one exception: where a
further slash follows, that path starts at the root, and the home directory is left out. Expanding a
path once more changes nothing, so it is all the same whether the paths of a configuration have been
expanded before or not.

## Main definitions

* `TargetUri.Environment.LeavesHome` — what may follow `~/` so that the home directory is left out.
* `TargetUri.ListenerConfig.mapPaths` — a configured listener with other paths.

## Main results

* `TargetUri.Environment.isNormalFormOf_expandHome_iff` — the expansion is the normal form of the
  path below the home directory, or the home directory is left out.
* `TargetUri.openListener_mapPaths` — opening a listener expands its paths.
* `TargetUri.expandHome_exact` — what is expanded to what, and where.
-/

namespace TargetUri

namespace Environment

variable {env : Environment}

/-! ## What is expanded -/

/-- What follows `~/` leaves the home directory out: it starts with a slash of its own, and does not
climb from the home directory to the root, where it would have led anyway. -/
def LeavesHome (env : Environment) (rest : String) : Prop :=
  Path.isAbsolute rest ∧
    Path.climb (Path.names rest) < (Path.normalize (Path.names env.home)).length

/-- Whether the home directory is left out can be computed. -/
instance (env : Environment) (rest : String) : Decidable (env.LeavesHome rest) :=
  inferInstanceAs (Decidable (_ ∧ _))

/-- The tilde stands for the home directory. -/
theorem expandHome_tilde : env.expandHome "~" = env.home := rfl

/-- What follows the tilde and a slash is resolved after the home directory. -/
theorem expandHome_tilde_slash (rest : String) :
    env.expandHome ("~/" ++ rest) = Path.resolve env.cwd [env.home, rest] := by
  have htext : ("~/" ++ rest).toList = '~' :: '/' :: rest.toList := by simp
  unfold expandHome
  rw [htext]
  simp only [String.ofList_toList]

/-- Any other path stays as it is. -/
theorem expandHome_of_ne {path : String} (htilde : path ≠ "~")
    (hslash : ∀ rest, path ≠ "~/" ++ rest) : env.expandHome path = path := by
  unfold expandHome
  split
  · next h => exact absurd (String.toList_inj.mp h) htilde
  · next rest h =>
    refine absurd (String.toList_inj.mp ?_) (hslash (String.ofList rest))
    simpa using h
  · rfl

/-- A path that starts at the root stays as it is. -/
theorem expandHome_of_isAbsolute {path : String} (h : Path.isAbsolute path) :
    env.expandHome path = path := by
  have hhead : path.toList.head? = some '/' := by simpa [Path.isAbsolute] using h
  refine expandHome_of_ne ?_ fun rest => ?_
  · rintro rfl
    exact absurd hhead (by decide)
  · rintro rfl
    simp at hhead

/-- A normal path stays as it is. -/
theorem expandHome_of_isNormal {path : String} (h : Path.IsNormal path) :
    env.expandHome path = path :=
  expandHome_of_isAbsolute (by rw [Path.isAbsolute, h.absolute]; rfl)

/-- **Expanding a path once more changes nothing.** -/
theorem expandHome_expandHome (hhome : Path.isAbsolute env.home) (path : String) :
    env.expandHome (env.expandHome path) = env.expandHome path := by
  by_cases htilde : path = "~"
  · rw [htilde, expandHome_tilde, expandHome_of_isAbsolute hhome]
  · by_cases hslash : ∃ rest, path = "~/" ++ rest
    · obtain ⟨rest, rfl⟩ := hslash
      rw [expandHome_tilde_slash]
      exact expandHome_of_isNormal (Path.isNormal_resolve _ _)
    · have hpath : env.expandHome path = path :=
        expandHome_of_ne htilde (not_exists.mp hslash)
      rw [hpath, hpath]

/-! ## Below the home directory -/

/-- The names that are expanded to: those of the home directory and those that follow, or the latter
alone when they start with a slash. -/
theorem expandHome_eq_ofPlace (hhome : Path.isAbsolute env.home) (rest : String) :
    env.expandHome ("~/" ++ rest) = Path.ofPlace (Path.normalize
      (if Path.isAbsolute rest then Path.names rest
        else Path.names env.home ++ Path.names rest)) := by
  rw [expandHome_tilde_slash, Path.resolve, List.foldl_cons, List.foldl_cons, List.foldl_nil,
    Path.append, Path.append, if_pos hhome]

/-- With a slash of its own, what follows `~/` is resolved alone. -/
theorem isNormalFormOf_expandHome_of_isAbsolute (hhome : Path.isAbsolute env.home) {rest : String}
    (h : Path.isAbsolute rest) : Path.IsNormalFormOf (env.expandHome ("~/" ++ rest)) rest := by
  rw [Path.isNormalFormOf_iff, expandHome_eq_ofPlace hhome, if_pos h]

/-- **What `~/` and a path are expanded to** is the normal form of the path below the home
directory, unless the home directory is left out.

**Proof sketch.** Without a slash of its own, the path is resolved after the names of the home
directory. With one it is resolved alone, and leads to the same place just when its names, taken
from the home directory, climb to the root (`Path.normalize_append_eq_iff`). -/
theorem isNormalFormOf_expandHome_iff (hhome : Path.isAbsolute env.home) (rest : String) :
    Path.IsNormalFormOf (env.expandHome ("~/" ++ rest)) (env.home ++ "/" ++ rest) ↔
      ¬env.LeavesHome rest := by
  rw [Path.isNormalFormOf_iff, expandHome_eq_ofPlace hhome, Path.names_append_slash, LeavesHome]
  by_cases habsolute : Path.isAbsolute rest
  · have hboth : ∀ n ∈ Path.names env.home ++ Path.names rest, '/' ∉ n :=
      List.forall_mem_append.mpr ⟨fun n hn => Path.slash_not_mem_of_mem_names hn,
        fun n hn => Path.slash_not_mem_of_mem_names hn⟩
    have hrest := (List.forall_mem_append.mp hboth).2
    rw [if_pos habsolute, Path.ofPlace_inj (Path.isName_of_mem_normalize hrest)
      (Path.isName_of_mem_normalize hboth), eq_comm, Path.normalize_append_eq_iff, ← Nat.not_lt]
    exact not_congr (and_iff_right habsolute).symm
  · rw [if_neg habsolute]
    exact iff_of_true rfl fun h => habsolute h.1

/-! ## The program's own files -/

/-- A root directory below the home directory is the expanded path itself, wherever the program
works. -/
theorem root_tilde_slash (rest : String) :
    env.root (some ("~/" ++ rest)) = env.expandHome ("~/" ++ rest) := by
  rw [root, Option.getD_some, expandHome_tilde_slash]
  exact Path.resolve_of_isNormal (Path.isNormal_resolve _ _) env.cwd

end Environment

/-! ## The files of listeners -/

/-- A configured listener with other paths, made of the texts of its own. -/
def ListenerConfig.mapPaths (f : String → String) : ListenerConfig → ListenerConfig
  | .tcp hostname port => .tcp hostname port
  | .tls hostname port certPath keyPath =>
    .tls hostname port (f certPath.repaired) (f keyPath.repaired)
  | .unix path => .unix (f path.repaired)

/-- A listener with other paths has the same transport. -/
theorem ListenerConfig.transport_mapPaths (f : String → String) (c : ListenerConfig) :
    (c.mapPaths f).transport = c.transport := by
  cases c <;> rfl

/-- Removing a stale socket file leaves the directories alone that paths depend on. -/
theorem env_removeStale {m m' : Machine} {path : String} (h : removeStale m path = .ok m') :
    m'.env = m.env := by
  unfold removeStale at h
  split at h <;> cases h <;> rfl

/-- A server is opened on the same files whether the paths of its listener have been expanded before
or not. -/
theorem openServer_mapPaths {m : Machine} (hhome : Path.isAbsolute m.env.home)
    (c : ListenerConfig) : openServer m (c.mapPaths m.env.expandHome) = openServer m c := by
  have hexpand : ∀ path : WideString,
      m.env.expandHome (WideString.text (m.env.expandHome path.repaired)).repaired =
        m.env.expandHome path.repaired := fun path =>
    Environment.expandHome_expandHome hhome path.repaired
  have hread : ∀ path : WideString,
      readConfigured m (.text (m.env.expandHome path.repaired)) = readConfigured m path := by
    intro path
    rw [readConfigured, readConfigured, hexpand]
  cases c with
  | tcp hostname port => rfl
  | tls hostname port certPath keyPath =>
    rw [ListenerConfig.mapPaths, openServer, openServer, readPair, readPair, hread certPath,
      hread keyPath]
  | unix path =>
    rw [ListenerConfig.mapPaths]
    have hagain : removeStale m
        (m.env.expandHome (WideString.text (m.env.expandHome path.repaired)).repaired) =
        removeStale m (m.env.expandHome path.repaired) := by
      rw [hexpand]
    cases hremove : removeStale m (m.env.expandHome path.repaired) with
    | error e =>
      rw [openServer_unix_of_error hremove, openServer_unix_of_error (hagain.trans hremove)]
    | ok m' =>
      rw [openServer_unix_of_ok hremove, openServer_unix_of_ok (hagain.trans hremove),
        env_removeStale hremove, hexpand]

/-- **Opening a listener expands its paths**: it is all the same whether they have been expanded
before. -/
theorem openListener_mapPaths {m : Machine} (hhome : Path.isAbsolute m.env.home)
    (t : ResourceTable) (c : ListenerConfig) :
    openListener m t (c.mapPaths m.env.expandHome) = openListener m t c := by
  rw [openListener, openListener, openServer_mapPaths hhome, ListenerConfig.transport_mapPaths]

/-! ## What is expanded, and where -/

/-- **A leading tilde stands for the home directory, but for a path behind it that starts with a
slash of its own.** What `~/` and a path are expanded to is the normal form of the path below the
home directory just when the home directory is not left out, and otherwise the normal form of that
path alone. Any other path stays as it is, and expanding a path once more changes nothing. A root
directory and the files of a listener are those of the expanded paths. -/
theorem expandHome_exact {m : Machine} (hhome : Path.isAbsolute m.env.home) :
    m.env.expandHome "~" = m.env.home ∧
    (∀ rest, (Path.IsNormalFormOf (m.env.expandHome ("~/" ++ rest)) (m.env.home ++ "/" ++ rest) ↔
        ¬m.env.LeavesHome rest) ∧
      (m.env.LeavesHome rest → Path.IsNormalFormOf (m.env.expandHome ("~/" ++ rest)) rest)) ∧
    (∀ path, path ≠ "~" → (∀ rest, path ≠ "~/" ++ rest) → m.env.expandHome path = path) ∧
    (∀ path, m.env.expandHome (m.env.expandHome path) = m.env.expandHome path) ∧
    (∀ rest, m.env.root (some ("~/" ++ rest)) = m.env.expandHome ("~/" ++ rest)) ∧
    ∀ t c, openListener m t (c.mapPaths m.env.expandHome) = openListener m t c := by
  refine ⟨Environment.expandHome_tilde, fun rest => ⟨?_, fun h => ?_⟩, ?_, ?_, ?_, ?_⟩
  · exact Environment.isNormalFormOf_expandHome_iff hhome rest
  · exact Environment.isNormalFormOf_expandHome_of_isAbsolute hhome h.1
  · exact fun path => Environment.expandHome_of_ne
  · exact Environment.expandHome_expandHome hhome
  · exact Environment.root_tilde_slash
  · exact openListener_mapPaths hhome

/-- A machine with a home directory two names below the root. -/
def Machine.withHome : Machine := .start ⟨"/home/oracle", "/work", "/home/oracle/.store"⟩ []

/-- A path that starts with a slash, but climbs to the root, is taken from the home directory. -/
theorem expandHome_exact_climbing :
    Path.isAbsolute Machine.withHome.env.home ∧
    ¬Machine.withHome.env.LeavesHome "/../x/../../etc//a/" ∧
    Machine.withHome.env.expandHome ("~/" ++ "/../x/../../etc//a/") = "/etc/a" ∧
    Path.IsNormalFormOf (Machine.withHome.env.expandHome ("~/" ++ "/../x/../../etc//a/"))
      (Machine.withHome.env.home ++ "/" ++ "/../x/../../etc//a/") := by
  have hhome : Path.isAbsolute Machine.withHome.env.home := by decide +kernel
  have hstays : ¬Machine.withHome.env.LeavesHome "/../x/../../etc//a/" := by decide +kernel
  exact ⟨hhome, hstays, by decide +kernel, ((expandHome_exact hhome).2.1 _).1.mpr hstays⟩

/-- A second slash behind the tilde leaves the home directory out. -/
theorem expandHome_second_slash :
    Machine.withHome.env.expandHome ("~/" ++ "/etc/x") = "/etc/x" ∧
    ¬Path.IsNormalFormOf (Machine.withHome.env.expandHome ("~/" ++ "/etc/x"))
      (Machine.withHome.env.home ++ "/" ++ "/etc/x") := by
  refine ⟨by decide +kernel, ?_⟩
  rw [Path.isNormalFormOf_iff]
  decide +kernel

end TargetUri
