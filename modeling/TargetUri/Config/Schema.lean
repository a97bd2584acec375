import TargetUri.Config.Issue
import TargetUri.Json.Number
import TargetUri.Log

set_option autoImplicit false

/-!
# Server configuration

The configuration of a server and how it is read from a JSON value. Reading fills in defaults,
drops what it does not know, and on a faulty value reports every fault at once.

## Main definitions

* `TargetUri.ListenerConfig`, `TargetUri.ServerConfig` — a configured listener, a configuration.
* `TargetUri.Checked` — a value, or everything that is wrong with it.
* `TargetUri.ServerConfig.check` — the configuration that a JSON value holds.
* `TargetUri.ServerConfig.toJson` — the JSON value that holds a configuration.

## Design

Each reader takes the value of a key, which may be absent, and reports faults with paths from that
value on; the reader of the object around it puts the key in front (`Checked.under`). Faults of
several keys come in the order of the keys (`Checked.both`).
-/

namespace TargetUri

/-! ## Configurations -/

/-- A configured port. Zero may have a minus sign: it is the same number without one, but a value of
its own. -/
inductive Port where
  /-- a number -/
  | number (n : Nat)
  /-- zero with a minus sign -/
  | minusZero
deriving DecidableEq, Repr, Inhabited

namespace Port

/-- A number is a port. -/
instance : Coe Nat Port := ⟨.number⟩

instance (n : Nat) : OfNat Port n := ⟨.number n⟩

/-- The number of a port. -/
def toNat : Port → Nat
  | .number n => n
  | .minusZero => 0

/-- A port as JSON. -/
def toJson : Port → Json
  | .number n => .nat n
  | .minusZero => .num .minusZero

end Port

/-- A configured listener. -/
inductive ListenerConfig where
  /-- plain TCP on an address and port; port zero leaves the choice to the machine -/
  | tcp (hostname : WideString) (port : Port)
  /-- TLS, with the files of the certificate chain and the private key -/
  | tls (hostname : WideString) (port : Port) (certPath keyPath : WideString)
  /-- a socket file -/
  | unix (path : WideString)
deriving DecidableEq, Repr, Inhabited

/-- The transport of a configured listener. -/
def ListenerConfig.transport : ListenerConfig → StreamType
  | .tcp .. => .tcp
  | .tls .. => .tls
  | .unix .. => .unix

/-- How much a server logs. -/
structure LoggingConfig where
  /-- records below this level are dropped -/
  level : Level
  /-- whether records are laid out for people -/
  pretty : Bool
deriving DecidableEq, Repr, Inhabited

/-- The configuration of a server. -/
structure ServerConfig where
  /-- the listeners to open, in order -/
  listeners : List ListenerConfig
  /-- how much to log -/
  logging : LoggingConfig
deriving DecidableEq, Repr, Inhabited

namespace ListenerConfig

/-- The address of a TCP listener that gives none: reachable from this machine only. -/
def defaultTcpHostname : String := "127.0.0.1"

/-- The address of a TLS listener that gives none: reachable from everywhere. -/
def defaultTlsHostname : String := "0.0.0.0"

end ListenerConfig

/-- The logging of a configuration that gives none. -/
def LoggingConfig.default : LoggingConfig := ⟨.info, false⟩

/-- The listeners of a configuration that gives none. -/
def ServerConfig.defaultListeners : List ListenerConfig :=
  [.tcp ListenerConfig.defaultTcpHostname 8080]

/-! ## Values and their faults -/

/-- A value, or everything that is wrong with it. -/
abbrev Checked (α : Type) := Except (List Issue) α

namespace Checked

variable {α β : Type}

/-- A fault of the value itself. -/
def fault (causes : List Cause) : Checked α := .error (causes.map fun c => ⟨[], c⟩)

/-- What is wrong with a value. -/
def issues : Checked α → List Issue
  | .ok _ => []
  | .error is => is

/-- Two values, or the faults of the first and then those of the second. -/
def both : Checked α → Checked β → Checked (α × β)
  | .ok a, .ok b => .ok (a, b)
  | a, b => .error (a.issues ++ b.issues)

/-- The faults of a value inside another, with their paths from the outer one. -/
def under (step : PathStep) : Checked α → Checked α
  | .ok a => .ok a
  | .error is => .error (is.map fun i => { i with path := step :: i.path })

/-- The value of a key among members, with the key in the paths of its faults. -/
def field (members : List (String × Json)) (key : String) (check : Option Json → Checked α) :
    Checked α :=
  (check (Json.lookup key members)).under (.key key)

end Checked

/-! ## Reading single values -/

/-- A value of another kind than asked for. -/
def wrongShape {α : Type} (expected : Shape) (v : Option Json) : Checked α :=
  .fault [.wrongShape expected (foundName v)]

/-- Whether a value counts as at least one, as a length. What counts as no number does not. -/
def isPositive (v : Json) : Bool := v.number?.any fun d => !d.isBelowOne

/-- What is wrong with the length of a value that must not be empty. Texts and lists have a length,
whichever of the two is asked for, and an object may give one. -/
def lengthCauses : Option Json → List Cause
  | some (.str s) => if s = .text "" then [.emptyText] else []
  | some (.arr []) => [.emptyList]
  | some (.obj ms) => if (Json.lookup "length" ms).all isPositive then [] else [.tooShort]
  | _ => []

/-- A value of another kind than the non-empty one asked for. -/
def wrongShapeOrEmpty {α : Type} (expected : Shape) (v : Option Json) : Checked α :=
  .fault (.wrongShape expected (foundName v) :: lengthCauses v)

/-- A text with at least one character. -/
def checkText : Option Json → Checked WideString
  | some (.str s) =>
    match lengthCauses (some (.str s)) with
    | [] => .ok s
    | causes => .fault causes
  | v => wrongShapeOrEmpty .string v

/-- A text with at least one character, or a default where there is none. -/
def checkTextOr (default : WideString) : Option Json → Checked WideString
  | none => .ok default
  | v => checkText v

/-- What is wrong with a whole number as a port. -/
def portCauses (n : Int) : List Cause :=
  (if safeLimit < n then [Cause.aboveSafe] else if n < -safeLimit then [Cause.belowSafe] else []) ++
    (if n < 0 then [Cause.belowZero] else if portLimit < n then [Cause.aboveLimit] else [])

/-- A port: a whole number from 0 to 65535. -/
def checkPort : Option Json → Checked Port
  | some (.num d) =>
    match d.round with
    | .infinite negative => .fault [.infinite negative]
    | .fractional => .fault [.notWhole]
    | .minusZero => .ok .minusZero
    | .whole n =>
      match portCauses n with
      | [] => .ok n.toNat
      | causes => .fault causes
  | v => wrongShape .number v

/-- The name of the transport that is asked for. -/
def checkTransport (expected : StreamType) (v : Option Json) : Checked Unit :=
  match v with
  | some (.str s) => if s = .text expected.name then .ok () else .fault [.wrongTransport expected]
  | _ => .fault [.wrongTransport expected]

/-- A level that a configuration may name, or the default one. -/
def checkLevel : Option Json → Checked Level
  | none => .ok LoggingConfig.default.level
  | some (.str (.text s)) =>
    if s ∈ levelNames then
      match Level.ofName? s with
      | some l => .ok l
      | none => .fault [.unknownLevel]
    else .fault [.unknownLevel]
  | some _ => .fault [.unknownLevel]

/-- A truth value, or a default where there is none. -/
def checkFlag (default : Bool) : Option Json → Checked Bool
  | none => .ok default
  | some (.bool b) => .ok b
  | v => wrongShape .boolean v

/-! ## Reading listeners -/

namespace ListenerConfig

open Checked (field)

/-- The members of a TCP listener. -/
def checkTcpMembers (ms : List (String × Json)) : Checked ListenerConfig :=
  ((field ms "transport" (checkTransport .tcp)).both
    ((field ms "hostname" (checkTextOr defaultTcpHostname)).both (field ms "port" checkPort))).map
    fun (_, hostname, port) => .tcp hostname port

/-- The members of a TLS listener. -/
def checkTlsMembers (ms : List (String × Json)) : Checked ListenerConfig :=
  ((field ms "transport" (checkTransport .tls)).both
    ((field ms "hostname" (checkTextOr defaultTlsHostname)).both
      ((field ms "port" checkPort).both
        ((field ms "certPath" checkText).both (field ms "keyPath" checkText))))).map
    fun (_, hostname, port, certPath, keyPath) => .tls hostname port certPath keyPath

/-- The members of a listener on a socket file. -/
def checkUnixMembers (ms : List (String × Json)) : Checked ListenerConfig :=
  ((field ms "transport" (checkTransport .unix)).both (field ms "path" checkText)).map
    fun (_, path) => .unix path

/-- The members of a listener of one transport. -/
def checkMembers : StreamType → List (String × Json) → Checked ListenerConfig
  | .tcp => checkTcpMembers
  | .tls => checkTlsMembers
  | .unix => checkUnixMembers

/-- A listener of one transport. -/
def checkAs (t : StreamType) : Option Json → Checked ListenerConfig
  | some (.obj ms) => checkMembers t ms
  | v => wrongShape .object v

/-- The transport that the members of a listener name. -/
def namedTransport? (ms : List (String × Json)) : Option StreamType :=
  match Json.lookup "transport" ms with
  | some (.str (.text s)) => StreamType.ofName? s
  | _ => none

/-- A listener of the transport that it names. -/
def check : Option Json → Checked ListenerConfig
  | some (.obj ms) =>
    match namedTransport? ms with
    | some t => checkMembers t ms
    | none => (Checked.fault [.unknownTransport]).under (.key "transport")
  | v => wrongShape .object v

/-- The listeners of a list whose first item has the given number. -/
def checkItems (first : Nat) : List Json → Checked (List ListenerConfig)
  | [] => .ok []
  | v :: vs =>
    (((check (some v)).under (.index first)).both (checkItems (first + 1) vs)).map
      fun (l, ls) => l :: ls

/-- A list of at least one listener, or the default one where there is none. -/
def checkList : Option Json → Checked (List ListenerConfig)
  | none => .ok ServerConfig.defaultListeners
  | some (.arr vs) =>
    match lengthCauses (some (.arr vs)) with
    | [] => checkItems 0 vs
    | causes => .fault causes
  | v => wrongShapeOrEmpty .array v

end ListenerConfig

/-! ## Reading configurations -/

/-- How much to log, or the default where there is none. -/
def LoggingConfig.check : Option Json → Checked LoggingConfig
  | none => .ok LoggingConfig.default
  | some (.obj ms) =>
    ((Checked.field ms "level" checkLevel).both
      (Checked.field ms "pretty" (checkFlag LoggingConfig.default.pretty))).map
      fun (level, pretty) => ⟨level, pretty⟩
  | v => wrongShape .object v

/-- The configuration that a JSON value holds. -/
def ServerConfig.check : Json → Checked ServerConfig
  | .obj ms =>
    ((Checked.field ms "listeners" ListenerConfig.checkList).both
      (Checked.field ms "logging" LoggingConfig.check)).map
      fun (listeners, logging) => ⟨listeners, logging⟩
  | v => wrongShape .object (some v)

/-! ## As JSON -/

/-- The JSON value of a listener, keys in the order in which they are read. -/
def ListenerConfig.toJson : ListenerConfig → Json
  | .tcp hostname port =>
    .obj [("transport", .str "tcp"), ("hostname", .str hostname), ("port", port.toJson)]
  | .tls hostname port certPath keyPath =>
    .obj [("transport", .str "tls"), ("hostname", .str hostname), ("port", port.toJson),
      ("certPath", .str certPath), ("keyPath", .str keyPath)]
  | .unix path => .obj [("transport", .str "unix"), ("path", .str path)]

/-- The JSON value of a configuration, keys in the order in which they are read. -/
def ServerConfig.toJson (c : ServerConfig) : Json :=
  .obj [("listeners", .arr (c.listeners.map ListenerConfig.toJson)),
    ("logging", .obj [("level", .str c.logging.level.name), ("pretty", .bool c.logging.pretty)])]

end TargetUri
