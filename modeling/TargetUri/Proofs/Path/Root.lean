import TargetUri.Proofs.Path.Home

set_option autoImplicit false

/-!
# The root directory

Whatever path is given for it, the root directory has one normal path, which is found again wherever
the program works. The configuration file stands in it, so that configuration files differ just when
the root directories do.

## Main results

* `TargetUri.Environment.isNormalFormOf_root` — the root directory has the normal form of its path,
  expanded and taken relative to the working directory.
* `TargetUri.Environment.root_root` — a root directory is its own root directory.
* `TargetUri.Environment.configFile_eq`, `TargetUri.Environment.configFile_eq_iff` — the path of the
  configuration file, and what it depends on.
* `TargetUri.Environment.root_canonical` — all of this.
-/

namespace TargetUri

namespace Environment

variable {env env' : Environment} {given given' : Option String}

/-! ## Root directories -/

/-- The path of a root directory is normal. -/
theorem isNormal_root (env : Environment) (given : Option String) :
    Path.IsNormal (env.root given) := Path.isNormal_resolve _ _

/-- **The root directory** has the normal form of the given path, or of the default one, expanded
and taken relative to the working directory. -/
theorem isNormalFormOf_root : Path.IsNormalFormOf (env.root given)
    (Path.relativeTo env.cwd (env.expandHome (given.getD env.defaultRoot))) := by
  rw [Path.isNormalFormOf_iff, root, Path.resolve_singleton]

/-- **A root directory is its own root directory**, whatever the directories are that paths depend
on by then. -/
theorem root_root : env'.root (some (env.root given)) = env.root given := by
  rw [root, Option.getD_some, expandHome_of_isNormal (isNormal_root env given)]
  exact Path.resolve_of_isNormal (isNormal_root env given) env'.cwd

/-! ## Configuration files -/

/-- The name of the configuration file may stand between slashes. -/
theorem isName_configName : Path.IsName Path.configName.toList := by
  refine ⟨?_, ?_, ?_, ?_⟩ <;> decide

/-- The configuration file is at the place below that of the root directory. -/
theorem configFile_eq_ofPlace {p : Place} (hp : ∀ n ∈ p, Path.IsName n)
    (hroot : env.root given = Path.ofPlace p) :
    env.configFile given = Path.ofPlace (p ++ [Path.configName.toList]) := by
  have hnames : Path.names Path.configName = [Path.configName.toList] :=
    List.splitOn_eq_singleton isName_configName.no_slash
  have hrelative : ¬Path.isAbsolute Path.configName := by decide
  rw [configFile, hroot, Path.resolve_singleton, Path.relativeTo, if_neg hrelative,
    Path.names_append_slash, hnames,
    Path.normalize_append_of_isName _ (by simpa using isName_configName),
    Path.normalize_names_ofPlace hp]

/-- **The path of the configuration file** is that of the root directory, a slash and the name of
the file; the slash is not written again behind that of the root. -/
theorem configFile_eq : env.configFile given =
    (if env.root given = "/" then "" else env.root given) ++ "/config.json" := by
  obtain ⟨p, hp, hroot⟩ := Path.isNormal_iff.mp (isNormal_root env given)
  rw [configFile_eq_ofPlace hp hroot, hroot]
  by_cases hempty : p = []
  · rw [if_pos ((Path.ofPlace_eq_root_iff hp).mpr hempty), hempty]
    rfl
  · rw [if_neg (mt (Path.ofPlace_eq_root_iff hp).mp hempty), Path.ofPlace_concat hempty,
      String.append_assoc]
    rfl

/-- **Configuration files are the same just when the root directories are.** -/
theorem configFile_eq_iff :
    env.configFile given = env'.configFile given' ↔ env.root given = env'.root given' := by
  obtain ⟨p, hp, hroot⟩ := Path.isNormal_iff.mp (isNormal_root env given)
  obtain ⟨q, hq, hroot'⟩ := Path.isNormal_iff.mp (isNormal_root env' given')
  have hname : ∀ n ∈ [Path.configName.toList], Path.IsName n := by simpa using isName_configName
  rw [configFile_eq_ofPlace hp hroot, configFile_eq_ofPlace hq hroot', hroot, hroot',
    Path.ofPlace_inj hp hq, Path.ofPlace_inj (List.forall_mem_append.mpr ⟨hp, hname⟩)
      (List.forall_mem_append.mpr ⟨hq, hname⟩)]
  exact List.append_left_inj _

/-- **A root directory has one normal path, and a configuration file of its own.** Whatever is given
for it, the path of the root directory is the normal form of that, expanded and taken relative to
the working directory, and it stays the same when it is given itself, whatever the directories are
that paths depend on by then. The configuration file stands in it, one slash behind, and two such
files are the same just when the root directories are. -/
theorem root_canonical (env : Environment) (given : Option String) :
    Path.IsNormal (env.root given) ∧
    Path.IsNormalFormOf (env.root given)
      (Path.relativeTo env.cwd (env.expandHome (given.getD env.defaultRoot))) ∧
    (∀ env' : Environment, env'.root (some (env.root given)) = env.root given) ∧
    env.configFile given =
      (if env.root given = "/" then "" else env.root given) ++ "/config.json" ∧
    ∀ (env' : Environment) (given' : Option String),
      env.configFile given = env'.configFile given' ↔ env.root given = env'.root given' :=
  ⟨isNormal_root env given, isNormalFormOf_root, fun _ => root_root, configFile_eq,
    fun _ _ => configFile_eq_iff⟩

end Environment

end TargetUri
