import TargetUri.Config.Schema
import TargetUri.Fault
import TargetUri.Json.Read
import TargetUri.Json.Render
import TargetUri.Machine.Files

set_option autoImplicit false

/-!
# Configuration files

Loading and saving the configuration of a server.

## Main definitions

* `TargetUri.ConfigLocation` — where the file is.
* `TargetUri.loadConfigOn`, `TargetUri.loadConfig` — the configuration of a file, which is written
  back with its defaults, on any device and on a sound one.
* `TargetUri.saveConfigOn`, `TargetUri.saveConfig` — writes a configuration.

## Design

A missing file counts as an empty object. The file is written back only when its text is not
already the one that would be written, so that every default is visible in it and a complete file
is left alone. Writing makes the directories, opens the file, which empties it, and then stores the
text: what a device refuses on the way is the fault of the load, and what has been done stays.
-/

namespace TargetUri

/-- Where a configuration file is: at a path, or in a root directory. -/
structure ConfigLocation where
  /-- the path of the file -/
  configPath : Option String
  /-- the root directory, which counts when no path is given -/
  rootPath : Option String
deriving DecidableEq, Repr

/-- The path of a configuration file. -/
def ConfigLocation.path (l : ConfigLocation) (env : Environment) : String :=
  l.configPath.getD (env.configFile l.rootPath)

/-- The text of a configuration file. -/
def configText (config : Json) : String := config.pretty ++ "\n"

/-- The text of the file that a path leads to, if there is a file. -/
def readIfExists (d : Device) (files : FileTree) (cwd path : String) :
    Except SystemError (Option String) :=
  match d.read files cwd path with
  | .ok content => .ok (some (String.ofList (Utf8.decodeLossy content)))
  | .error .noEntry => .ok none
  | .error e => .error e

/-- The configuration that the text of a file holds; without a file, the default one. -/
def parseConfig (text : Option String) : Except Fault ServerConfig :=
  match text with
  | none =>
    match ServerConfig.check (.obj []) with
    | .ok c => .ok c
    | .error issues => .error (.invalidConfig issues)
  | some s =>
    match Json.read? s with
    | none => .error .malformedText
    | some j =>
      match ServerConfig.check j with
      | .ok c => .ok c
      | .error issues => .error (.invalidConfig issues)

/-- The files after a text has been written to a path, directories above it made, and whether that
went well. -/
def writeText (d : Device) (env : Environment) (files : FileTree) (path text : String) :
    Except SystemError Unit × FileTree :=
  match d.makeWay files env.cwd path with
  | (.error e, files) => (.error e, files)
  | (.ok (), files) =>
    match d.openFile files env.cwd path with
    | .error e => (.error e, files)
    | .ok (p, files) => d.store files p (Utf8.encode text)

/-- Loads a configuration on a device. The file is written back when its text is not the one that
the loaded configuration is written as. -/
def loadConfigOn (d : Device) (env : Environment) (files : FileTree) (l : ConfigLocation) :
    Except Fault ServerConfig × FileTree :=
  let path := l.path env
  match readIfExists d files env.cwd path with
  | .error e => (.error (.system e), files)
  | .ok text =>
    match parseConfig text with
    | .error f => (.error f, files)
    | .ok c =>
      if text = some (configText c.toJson) then (.ok c, files)
      else
        match writeText d env files path (configText c.toJson) with
        | (.error e, files) => (.error (.system e), files)
        | (.ok (), files) => (.ok c, files)

/-- Saves a configuration value as it is, on a device. -/
def saveConfigOn (d : Device) (env : Environment) (files : FileTree) (l : ConfigLocation)
    (config : Json) : Except Fault Unit × FileTree :=
  match writeText d env files (l.path env) (configText config) with
  | (.error e, files) => (.error (.system e), files)
  | (.ok (), files) => (.ok (), files)

/-- Loads a configuration where no device fails. -/
def loadConfig : Environment → FileTree → ConfigLocation → Except Fault ServerConfig × FileTree :=
  loadConfigOn .sound

/-- Saves a configuration value where no device fails. -/
def saveConfig :
    Environment → FileTree → ConfigLocation → Json → Except Fault Unit × FileTree :=
  saveConfigOn .sound

end TargetUri
