import TargetUri.Path
import TargetUri.Text.Units
import TargetUri.Text.Utf8

set_option autoImplicit false

/-!
# Files

The files of a machine, as far as the program reads, writes and removes them.

## Main definitions

* `TargetUri.FileTree` — what is at each place.
* `TargetUri.SystemError` — why an operation fails.
* `TargetUri.Device` — what fails on a device although the files do not refuse it.
* `TargetUri.FileTree.locate` — the place that a path leads to.
* `TargetUri.Device.read`, `TargetUri.Device.makeWay`, `TargetUri.Device.openFile`,
  `TargetUri.Device.store`, `TargetUri.FileTree.unlinkPath` — the operations on paths.

## Design

The tree is a list of places with what is there. The root is a directory and is not listed; links
are left out. A path is walked from the root, name by name, through directories only: a missing one
makes the path missing, and anything else there means that a file is used as a directory. A file is
written in two steps: opening it makes it or empties it, and then its content is stored, of which a
device may only take a part.
-/

namespace TargetUri

/-- Outcomes of operations can be compared. -/
instance decideOutcome {ε α : Type} [DecidableEq ε] [DecidableEq α] : DecidableEq (Except ε α)
  | .ok a, .ok b =>
    match decEq a b with
    | isTrue h => isTrue (congrArg Except.ok h)
    | isFalse h => isFalse fun heq => h (Except.ok.inj heq)
  | .error e, .error f =>
    match decEq e f with
    | isTrue h => isTrue (congrArg Except.error h)
    | isFalse h => isFalse fun heq => h (Except.error.inj heq)
  | .ok _, .error _ => isFalse nofun
  | .error _, .ok _ => isFalse nofun

/-- A fault of a device: any but that of a missing file. -/
structure DeviceFault where
  /-- its code -/
  code : String
  /-- it is no missing file -/
  there : code ≠ "ENOENT"
deriving DecidableEq, Repr

/-- Why an operation of the machine fails. -/
inductive SystemError where
  /-- there is nothing at the place -/
  | noEntry
  /-- there is a directory where a file is asked for -/
  | isDirectory
  /-- there is a file where a directory is asked for -/
  | notDirectory
  /-- the place cannot be created -/
  | accessDenied
  /-- another listener holds the address -/
  | addressInUse
  /-- a listener is closed that is not open -/
  | notRunning
  /-- a socket is opened as a file -/
  | noDevice
  /-- a path holds a character that none can hold -/
  | invalidPath
  /-- the device fails -/
  | device (fault : DeviceFault)
  /-- a certificate and a key cannot be used together -/
  | unusablePair (code : String)
deriving DecidableEq, Repr

/-- The code of a system error. -/
def SystemError.code : SystemError → String
  | noEntry => "ENOENT"
  | isDirectory => "EISDIR"
  | notDirectory => "ENOTDIR"
  | accessDenied => "EACCES"
  | addressInUse => "EADDRINUSE"
  | notRunning => "ERR_SERVER_NOT_RUNNING"
  | noDevice => "ENXIO"
  | invalidPath => "ERR_INVALID_ARG_VALUE"
  | device fault => fault.code
  | unusablePair code => code

/-- What is at a place. -/
inductive FileNode where
  /-- a regular file -/
  | file (content : Bytes)
  /-- the file of a listening socket -/
  | socket
  /-- a directory -/
  | directory
deriving DecidableEq, Repr

/-- What is at each place of a file system. -/
abbrev FileTree := List (Place × FileNode)

namespace FileTree

/-- What is at a place; the root is a directory. -/
def node? (t : FileTree) (p : Place) : Option FileNode :=
  if p = [] then some .directory else t.lookup p

/-- The tree with nothing at a place. -/
def erase (t : FileTree) (p : Place) : FileTree := t.filter (·.1 ≠ p)

/-- The tree with something new at a place. -/
def set (t : FileTree) (p : Place) (n : FileNode) : FileTree := (p, n) :: t.erase p

/-- What is wrong with the way from a directory down to the directory of a place below it. -/
def blocked? (t : FileTree) (above : Place) : Place → Option SystemError
  | [] => none
  | [_] => none
  | name :: rest =>
    match t.node? (above ++ [name]) with
    | some .directory => t.blocked? (above ++ [name]) rest
    | some _ => some .notDirectory
    | none => some .noEntry

/-- What is at a place that can be reached. -/
def find (t : FileTree) (p : Place) : Except SystemError FileNode :=
  match t.blocked? [] p with
  | some e => .error e
  | none =>
    match t.node? p with
    | some n => .ok n
    | none => .error .noEntry

/-- The content of a regular file. -/
def read (t : FileTree) (p : Place) : Except SystemError Bytes :=
  match t.find p with
  | .ok (.file content) => .ok content
  | .ok .socket => .error .noDevice
  | .ok .directory => .error .isDirectory
  | .error e => .error e

/-- The tree after a file has been removed. -/
def unlink (t : FileTree) (p : Place) : Except SystemError FileTree :=
  match t.find p with
  | .ok .directory => .error .isDirectory
  | .ok _ => .ok (t.erase p)
  | .error e => .error e

/-! ## Paths -/

/-- Walks names from a place: each must lead to a directory. -/
def walk (t : FileTree) (p : Place) : List (List Char) → Except SystemError Place
  | [] => .ok p
  | name :: rest =>
    match t.node? (Path.step p name) with
    | some .directory => t.walk (Path.step p name) rest
    | some _ => .error .notDirectory
    | none => .error .noEntry

/-- What a path leads to. -/
structure Located where
  /-- the place of its last name -/
  place : Place
  /-- whether it can only be a directory -/
  slash : Bool
deriving DecidableEq, Repr

/-- The place that a path leads to, through directories that are there. -/
def locate (t : FileTree) (cwd path : String) : Except SystemError Located :=
  if '\x00' ∈ path.toList then .error .invalidPath
  else if path.toList = [] then .error .noEntry
  else
    match t.walk [] (Path.way cwd path) with
    | .error e => .error e
    | .ok p =>
      .ok ⟨((Path.components path).getLast?.map (Path.step p)).getD p, Path.endsInSlash path⟩

/-- Why a file cannot be at a place that can only be a directory. -/
def slashed (t : FileTree) (p : Place) : SystemError :=
  match t.node? p with
  | some .directory => .isDirectory
  | some _ => .notDirectory
  | none => .noEntry

/-- An operation on the file that a path leads to. -/
def atPath {α : Type} (t : FileTree) (cwd path : String)
    (operation : Place → Except SystemError α) : Except SystemError α :=
  match t.locate cwd path with
  | .error e => .error e
  | .ok ⟨p, true⟩ => .error (t.slashed p)
  | .ok ⟨p, false⟩ => operation p

/-- The content of the regular file that a path leads to. -/
def readPath (t : FileTree) (cwd path : String) : Except SystemError Bytes :=
  t.atPath cwd path t.read

/-- The tree after the file that a path leads to has been removed. -/
def unlinkPath (t : FileTree) (cwd path : String) : Except SystemError FileTree :=
  t.atPath cwd path t.unlink

/-- The place of the regular file that a path leads to, or of a new one, to be written to. -/
def writable (t : FileTree) (cwd path : String) : Except SystemError Place :=
  match t.locate cwd path with
  | .error e => .error e
  | .ok ⟨_, true⟩ => .error .isDirectory
  | .ok ⟨p, false⟩ =>
    match t.node? p with
    | some .directory => .error .isDirectory
    | some .socket => .error .noDevice
    | _ => .ok p

end FileTree

/-! ## Devices -/

/-- What fails on a device, one time, although the files do not refuse it. -/
structure Device where
  /-- a file cannot be read -/
  reading : Option DeviceFault
  /-- after some directories no more can be made -/
  making : Option (Nat × DeviceFault)
  /-- a file cannot be opened to be written -/
  opening : Option DeviceFault
  /-- after some bytes no more can be stored -/
  storing : Option (Nat × DeviceFault)
deriving DecidableEq, Repr

namespace Device

/-- A device on which nothing fails. -/
def sound : Device := ⟨none, none, none, none⟩

/-- Reads the regular file that a path leads to. -/
def read (d : Device) (t : FileTree) (cwd path : String) : Except SystemError Bytes :=
  match d.reading with
  | some fault => .error (.device fault)
  | none => t.readPath cwd path

/-- The tree with the directories that names lead through from a place, missing ones made until one
cannot be. -/
def makeDirectories (limit : Option (Nat × DeviceFault)) (t : FileTree) (p : Place) :
    List (List Char) → Except SystemError Unit × FileTree
  | [] => (.ok (), t)
  | name :: rest =>
    match t.node? (Path.step p name), limit with
    | some .directory, _ => makeDirectories limit t (Path.step p name) rest
    | some _, _ => (.error .notDirectory, t)
    | none, some (0, fault) => (.error (.device fault), t)
    | none, some (count + 1, fault) =>
      makeDirectories (some (count, fault)) (t.set (Path.step p name) .directory)
        (Path.step p name) rest
    | none, none =>
      makeDirectories none (t.set (Path.step p name) .directory) (Path.step p name) rest

/-- The tree with the directories that a path leads through, missing ones made until one cannot
be. -/
def makeWay (d : Device) (t : FileTree) (cwd path : String) : Except SystemError Unit × FileTree :=
  if (Path.way cwd path).any ('\x00' ∈ ·) then (.error .invalidPath, t)
  else makeDirectories d.making t [] (Path.way cwd path)

/-- Opens the regular file that a path leads to, to write to it: its place, and the tree with a new
file there, or with the one that was there emptied. -/
def openFile (d : Device) (t : FileTree) (cwd path : String) :
    Except SystemError (Place × FileTree) :=
  match d.opening with
  | some fault => .error (.device fault)
  | none =>
    match t.writable cwd path with
    | .error e => .error e
    | .ok p => .ok (p, t.set p (.file []))

/-- Stores a content in an open file, all of it or as much as the device takes. -/
def store (d : Device) (t : FileTree) (p : Place) (content : Bytes) :
    Except SystemError Unit × FileTree :=
  match d.storing with
  | none => (.ok (), t.set p (.file content))
  | some (count, fault) => (.error (.device fault), t.set p (.file (content.take count)))

end Device

namespace FileTree

/-- The tree with something at a place, whatever was there, and directories above it. -/
def install (t : FileTree) (p : Place) (n : FileNode) : FileTree :=
  match Device.makeDirectories none t [] p.dropLast with
  | (.ok (), u) => u.set p n
  | (.error _, _) => t.set p n

/-- Whether something is a file: a regular one, or that of a socket. -/
def FileNode.isFile : FileNode → Bool
  | .directory => false
  | _ => true

/-- The places of the files. -/
def filePlaces (t : FileTree) : List Place := (t.filter fun e => FileNode.isFile e.2).map (·.1)

end FileTree

/-! ## Lists of paths -/

/-- The paths of all files, in order. -/
def FileTree.listing (t : FileTree) : List String :=
  (t.filePlaces.map Path.ofPlace).mergeSort Text.unitsLe

end TargetUri
