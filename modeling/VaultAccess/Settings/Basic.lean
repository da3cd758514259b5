import VaultAccess.Backend.Basic
import VaultAccess.Vault.Program

/-!
# Settings

Where the vault is and how to log in, how many users a page holds, which backends to mount, and
what to log. Every part has a default except the token and the namespace.
-/
namespace VaultAccess

open Decode

/-- How much is logged. -/
inductive LogLevel where
  | silent
  | error
  | warn
  | info
  | debug
  | trace
  deriving DecidableEq, Repr, Inhabited

namespace LogLevel

def name : LogLevel → String
  | silent => "silent"
  | error => "error"
  | warn => "warn"
  | info => "info"
  | debug => "debug"
  | trace => "trace"

def all : List LogLevel := [silent, error, warn, info, debug, trace]

def ofName? (s : String) : Option LogLevel := all.find? fun l => l.name == s

/-- Whether lines of a level are logged. -/
def keeps (l : LogLevel) (line : Vault.Level) : Bool :=
  let most : Nat := match l with
    | silent => 0
    | error => 1
    | warn => 2
    | info => 3
    | debug => 4
    | trace => 5
  let least : Nat := match line with
    | .error => 1
    | .warn => 2
    | .info => 3
    | .debug => 4
    | .trace => 5
  least ≤ most

/-- The filter that lets lines of this level through. -/
def directive (l : LogLevel) : String :=
  "vault_connector=" ++ (match l with
    | silent => "off"
    | l => l.name)

end LogLevel

structure VaultSettings where
  address : String
  token : Option String
  /-- The namespace that is sent with every request. -/
  «namespace» : Option String
  timeoutSecs : UInt64
  deriving DecidableEq, Repr

structure SyncSettings where
  /-- How many users one call reads. -/
  pageSize : UInt64
  deriving DecidableEq, Repr

structure LogSettings where
  level : LogLevel
  /-- Whether log lines are JSON objects. -/
  json : Bool
  deriving DecidableEq, Repr

/-- All settings. -/
structure Settings where
  vault : VaultSettings
  sync : SyncSettings
  backends : List Backend
  logging : LogSettings
  deriving DecidableEq, Repr

variable {V E : Type}

namespace VaultSettings

/-- A development server on this machine. -/
def defaultAddress : String := "http://127.0.0.1:8200"

def default : VaultSettings := ⟨defaultAddress, none, none, 30⟩

def toJson (s : VaultSettings) : Json :=
  let text : Option String → Json
    | some t => .str t
    | none => .null
  .obj [("address", .str s.address), ("token", text s.token), ("namespace", text s.namespace),
    ("timeoutSecs", Json.ofNat s.timeoutSecs.toNat)]

def read (d : Dialect V E) : V → Except E VaultSettings :=
  d.ofRecord "struct VaultConfig" <|
    Record.start VaultSettings.mk
      |>.field (withDefault "address" defaultAddress d.text)
      |>.field (d.optionalField "token" d.text)
      |>.field (d.optionalField "namespace" d.text)
      |>.field (withDefault "timeoutSecs" 30 (d.word "u64"))

end VaultSettings

namespace SyncSettings

def default : SyncSettings := ⟨1000⟩

def toJson (s : SyncSettings) : Json := .obj [("pageSize", Json.ofNat s.pageSize.toNat)]

def read (d : Dialect V E) : V → Except E SyncSettings :=
  d.ofRecord "struct SyncConfig" <|
    Record.start SyncSettings.mk
      |>.field (withDefault "pageSize" 1000 (d.word "usize"))

end SyncSettings

namespace LogSettings

def default : LogSettings := ⟨.info, false⟩

def toJson (s : LogSettings) : Json :=
  .obj [("level", .str s.level.name), ("json", .bool s.json)]

/-- A log level by its name. -/
def readLevel (d : Dialect V E) : V → Except E LogLevel :=
  d.oneOf (LogLevel.all.map LogLevel.name) LogLevel.ofName?

def read (d : Dialect V E) : V → Except E LogSettings :=
  d.ofRecord "struct LoggingConfig" <|
    Record.start LogSettings.mk
      |>.field (withDefault "level" .info (readLevel d))
      |>.field (withDefault "json" false d.flag)

end LogSettings

namespace Settings

def default : Settings := ⟨.default, .default, Backend.defaults, .default⟩

/-- The parts of settings as members of an object. -/
def members (s : Settings) : Json.Members :=
  [("vault", s.vault.toJson), ("sync", s.sync.toJson),
    ("backends", .arr (s.backends.map Backend.toJson)), ("logging", s.logging.toJson)]

def toJson (s : Settings) : Json := .obj s.members

def read (d : Dialect V E) : V → Except E Settings :=
  d.ofRecord "struct Config" <|
    Record.start Settings.mk
      |>.field (withDefault "vault" .default (VaultSettings.read d))
      |>.field (withDefault "sync" .default (SyncSettings.read d))
      |>.field (withDefault "backends" Backend.defaults (d.listOf (Backend.read d)))
      |>.field (withDefault "logging" .default (LogSettings.read d))

/-- What is shown instead of a token. -/
def hiddenToken : String := "********"

/-- The settings with the token hidden. -/
def redacted (s : Settings) : Settings :=
  { s with vault := { s.vault with token := s.vault.token.map fun _ => hiddenToken } }

end Settings

end VaultAccess
