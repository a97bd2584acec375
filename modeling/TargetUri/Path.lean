set_option autoImplicit false

/-!
# Paths

Paths of a POSIX file system as text, and their normal form: the list of names that leads from the
root to a file, with no empty name, no `.` and no `..`.

## Main definitions

* `TargetUri.Path.normalize` — the place that a row of names leads to.
* `TargetUri.Path.resolve` — a sequence of paths, each taken relative to what comes before it.
* `TargetUri.Path.way`, `TargetUri.Path.step` — the names that lead to the directory of a path, and
  where one of them leads.
* `TargetUri.Environment` — the directories that the meaning of a path depends on.
* `TargetUri.Environment.expandHome`, `TargetUri.Environment.root`,
  `TargetUri.Environment.configFile` — where the program keeps its files.

## Design

`..` at the root stays at the root. `resolve` and `place` normalise paths as text, without a look at
the file system, and a leading slash makes a path absolute wherever it stands in a sequence. A file
system walks the names of a path one by one instead (`way`, `step`), so that each but the last must
be a directory, also one that a later `..` leaves again.
-/

namespace TargetUri

/-- A place in the file system: the names that lead there from the root. -/
abbrev Place := List (List Char)

namespace Path

/-- The names between the slashes of a path; a slash at an end, or two in a row, give an empty
name. -/
def names (path : String) : List (List Char) := path.toList.splitOn '/'

/-- One name applied to the place reached so far, whose last name stands first: an empty name and
`.` stay there, and `..` leads to the place above. -/
def enter (reached : Place) (name : List Char) : Place :=
  if name = [] ∨ name = ['.'] then reached
  else if name = ['.', '.'] then reached.tail
  else name :: reached

/-- The place that a row of names leads to from the root. -/
def normalize (ns : List (List Char)) : Place := (ns.foldl enter []).reverse

/-- The path of a place. -/
def ofPlace (p : Place) : String := String.ofList ('/' :: ['/'].intercalate p)

/-- Whether a path starts at the root. -/
def isAbsolute (path : String) : Bool := path.toList.head? == some '/'

/-- The names of a path taken relative to where other names lead. -/
def append (base : List (List Char)) (path : String) : List (List Char) :=
  if isAbsolute path then names path else base ++ names path

/-- The place of a path, taken relative to a working directory. -/
def place (cwd path : String) : Place := normalize (append (names cwd) path)

/-- The normal form of paths in a row, each relative to those before it and the first to the
working directory. -/
def resolve (cwd : String) (paths : List String) : String :=
  ofPlace (normalize (paths.foldl append (names cwd)))

/-! ## Paths as they are walked -/

/-- Where one name leads from a place: an empty name and `.` stay there, and `..` leads to the place
above. -/
def step (p : Place) (name : List Char) : Place :=
  if name = [] ∨ name = ['.'] then p
  else if name = ['.', '.'] then p.dropLast
  else p ++ [name]

/-- The names of a path, without the empty ones between slashes in a row. -/
def components (path : String) : List (List Char) := (names path).filter (· ≠ [])

/-- The names that lead from the root to the directory that a path names something in: those of the
working directory unless the path is absolute, and all of the path but its last one. -/
def way (cwd path : String) : List (List Char) :=
  (if isAbsolute path then [] else names cwd) ++ (components path).dropLast

/-- Whether a path ends in a slash: then it can only name a directory. -/
def endsInSlash (path : String) : Bool := path.toList.getLast? == some '/'

/-- The name of the root directory in the home directory. -/
def rootName : String := ".request-authority"

/-- The name of the configuration file in the root directory. -/
def configName : String := "config.json"

end Path

/-! ## The program's own files -/

/-- The directories that the meaning of a path depends on. -/
structure Environment where
  /-- the home directory, as the machine gives it -/
  home : String
  /-- the working directory, an absolute path -/
  cwd : String
  /-- the root directory of a caller that gives none, fixed when the program started -/
  defaultRoot : String
deriving DecidableEq, Repr

/-- The root directory of a program started with an absolute home directory. -/
def Path.defaultRoot (home : String) : String := Path.resolve home [Path.rootName]

namespace Environment

/-- A path in which a leading `~` stands for the home directory. What follows `~/` is taken
relative to it. -/
def expandHome (env : Environment) (path : String) : String :=
  match path.toList with
  | ['~'] => env.home
  | '~' :: '/' :: rest => Path.resolve env.cwd [env.home, String.ofList rest]
  | _ => path

/-- The absolute root directory: the given one, or the default. -/
def root (env : Environment) (given : Option String) : String :=
  Path.resolve env.cwd [env.expandHome (given.getD env.defaultRoot)]

/-- The path of the configuration file in the root directory. -/
def configFile (env : Environment) (given : Option String) : String :=
  Path.resolve (env.root given) [Path.configName]

end Environment

end TargetUri
