import VaultAccess.CommandLine
import VaultAccess.Connector.FullSync
import VaultAccess.Http.Connection
import VaultAccess.Settings.Override
import VaultAccess.Settings.Problem
import VaultAccess.Variables

/-!
# The program

What the program does from its start to its end, as a function of what it finds and of the wire
that carries its requests. Nothing is sent before the settings have been checked and the ids on
the command line have been read.
-/
namespace VaultAccess.App

open CommandLine (Invocation Stop)
open Connector (Session)
open Vault (LogLine)

/-- The program's name and version. -/
def title : String := "vault-connector 2026.10.1"

/-- What is shown when help is asked for. -/
def help : String :=
  "Sync HashiCorp Vault users, roles and policies\n\n" ++
  "Usage: vault-connector [OPTIONS] <COMMAND>\n\n" ++
  "Commands:\n" ++
  "  sync [--pretty]                           Print everything the vault holds as JSON\n" ++
  "  grant -e <ENTITLEMENT> -p <PRINCIPAL>     Grant an entitlement to a user\n" ++
  "  revoke -g <GRANT>                         Revoke a grant\n" ++
  "  validate                                  Check that the token is accepted\n" ++
  "  config show|validate|init                 Show, check or write the settings\n" ++
  "  version                                   Print the version\n" ++
  "  help                                      Print this text\n\n" ++
  "Options:\n" ++
  "  -c, --config <CONFIG>                     Settings file (JSON, YAML or TOML)\n" ++
  "      --vault-host <VAULT_HOST>             Address of the vault\n" ++
  "      --vault-token <VAULT_TOKEN>           Token for every request\n" ++
  "  -h, --help                                Print this text\n" ++
  "  -V, --version                             Print the version"

/-- What the program finds when it starts. -/
structure Surroundings where
  words : List String
  bindings : Variables.Bindings
  /-- The path of the home directory. -/
  home : String
  disk : Disk
  /-- What has the name of the file with further variables in the directories above the one that the
  program works in, from the nearest on. -/
  above : List (Option Disk.Entry) := []
  deriving Repr

/-- Why the program fails. -/
inductive Failure where
  | usage (stop : Stop)
  | file (fault : Settings.FileFault)
  | writing (fault : Settings.WriteFault)
  /-- The settings were to be checked and have this many problems. -/
  | problems (count : Nat)
  /-- The settings cannot be used. -/
  | unusable (text : String)
  | id (fault : IdFault)
  | vault (fault : Fault)
  /-- What was being done when the fault came up. -/
  | doing (what : String) (fault : Fault)
  deriving Repr

namespace Failure

/-- The wording of a failure, and of what it came from. -/
def causes : Failure → List String
  | usage _ => ["the command line does not name a command"]
  | file fault => [fault.message]
  | writing fault => [fault.message]
  | problems count => [Text.Decimal.write count ++ " configuration error(s)"]
  | unusable text => [text]
  | id fault => [fault.message]
  | vault fault => fault.causes
  | doing what fault => what :: fault.causes

/-- The exit code of a failure. -/
def code : Failure → Nat
  | usage _ => 2
  | _ => 1

end Failure

/-- What the program leaves behind. -/
structure Ending where
  output : String
  log : List LogLine
  /-- Whether log lines are JSON objects. -/
  hasJsonLog : Bool
  failure : Option Failure
  disk : Disk
  deriving Repr

namespace Ending

/-- The exit code. -/
def code (e : Ending) : Nat := e.failure.elim 0 Failure.code

/-- An ending without a log. -/
def quiet (disk : Disk) : Except Failure String → Ending
  | .ok output => ⟨output, [], false, none, disk⟩
  | .error failure => ⟨"", [], false, some failure, disk⟩

/-- An ending whose log is as detailed as the settings want it. -/
def logged (disk : Disk) (s : LogSettings) (log : List LogLine) : Except Failure String → Ending
  | .ok output => ⟨output, log.filter fun l => s.level.keeps l.level, s.json, none, disk⟩
  | .error failure => ⟨"", log.filter fun l => s.level.keeps l.level, s.json, some failure, disk⟩

end Ending

/-! ## Settings -/

/-- The file that settings are written to unless another one is given. -/
def defaultFile : String := "vault-connector.json"

/-- The file with further variables. -/
def variablesFile : String := ".env"

/-- The file with further variables: that of the directory that the program works in, or else of the
nearest one above that has such a file. -/
def Surroundings.furtherVariables? (s : Surroundings) : Option (List UInt8) :=
  (s.disk.entry? variablesFile :: s.above).findSome? fun
    | some (.file content) => some content
    | _ => none

/-- The variables that are set, those of the file with further variables among them. -/
def Surroundings.allVariables (s : Surroundings) : Variables.Bindings :=
  match s.furtherVariables? with
  | some content => Variables.load s.bindings content
  | none => s.bindings

/-- The file with the settings. -/
def Surroundings.settingsFile (s : Surroundings) (i : Invocation) : Option String :=
  Settings.locate s.disk s.home i.file

/-- The settings in force: those of the file, overridden by variables and then by options. -/
def Surroundings.settings (s : Surroundings) (i : Invocation) : Except Failure Settings :=
  match Settings.load s.disk (s.settingsFile i) with
  | .error fault => .error (.file fault)
  | .ok settings =>
    let byVariables := settings.override (.ofVariables (s.allVariables.lookup ·))
    .ok (byVariables.override ⟨i.address, i.token, none⟩)

/-- Write the default settings to a file. -/
def writeDefault (disk : Disk) (path : String) : Ending :=
  match Settings.save disk path .default with
  | .error fault => .quiet disk (.error (.writing fault))
  | .ok disk => .quiet disk (.ok ("Configuration file created at " ++ path ++ "\n"))

/-- Where the settings came from, for the log. -/
def sourceLine : Option String → LogLine
  | some path => ⟨.info, "Loaded config from " ++ path⟩
  | none => ⟨.info, "No config file found, using defaults"⟩

/-- The settings as they are shown. -/
def shownSettings (s : Settings) : String := s.redacted.toJson.toPrettyText ++ "\n"

/-- The log of a check of the settings, and what comes of it. -/
def checkSettings (s : Settings) : List LogLine × Except Failure String :=
  match s.problems with
  | [] => ([⟨.info, "Configuration is valid"⟩], .ok "")
  | ps => (ps.map fun p => ⟨.warn, p.text⟩, .error (.problems ps.length))

/-! ## Tasks -/

/-- What needs the vault. -/
inductive Task where
  | validate
  | sync (pretty : Bool)
  | grant (principal : ResourceId) (entitlement : Entitlement)
  | revoke (grant : Grant)
  deriving Repr

namespace Task

/-- What a task does with a connector, and what it prints. -/
def perform (c : Connector) : Task → Session String
  | validate => do
    Session.ofTask Connector.validate
    return "ok\n"
  | sync pretty => do
    let report := (← c.fullSync).toJson
    return (if pretty then report.toPrettyText else report.toText) ++ "\n"
  | grant principal entitlement => do
    c.grant principal entitlement
    Session.ofTask (Vault.Action.note .info
      ("Granted " ++ entitlement.id ++ " to " ++ principal.describe))
    return ""
  | revoke g => do
    c.revoke g
    Session.ofTask (Vault.Action.note .info ("Revoked " ++ g.id))
    return ""

/-- The failure of a task through a fault. -/
def failure (fault : Fault) : Task → Failure
  | validate | sync _ => .vault fault
  | grant principal entitlement =>
    .doing ("granting " ++ entitlement.id ++ " to " ++ principal.describe) fault
  | revoke g => .doing ("revoking " ++ g.id) fault

end Task

/-- The connector that settings ask for; a page holds at least one user. -/
def connectorOf (s : Settings) : Connector := ⟨s.backends, max s.sync.pageSize.toNat 1⟩

/-- The connection that settings ask for, if they have no problems. -/
def connect (s : Settings) : Except Failure Http.Connection :=
  match s.checked with
  | .error text => .error (.unusable text)
  | .ok s => (Http.Connection.ofSettings s.vault).mapError .vault

/-- The program that carries out a task. -/
def Task.program (s : Settings) (t : Task) : Vault.Program (Except Failure String) :=
  ((t.perform (connectorOf s)).run.run .fresh).bind fun r =>
    .done (r.1.mapError fun fault => t.failure fault)

/-! ## From start to end -/

/-- What a loaded program does next. -/
inductive Step where
  | show
  | check
  | vault (task : Task)
  deriving Repr

/-- The next step of a command, if it has one that needs settings. -/
def stepOf : CommandLine.Command → Except IdFault Step
  | .sync pretty => .ok (.vault (.sync pretty))
  | .grant entitlement principal =>
    (Entitlement.ofId entitlement).map fun e => .vault (.grant ⟨.user, principal⟩ e)
  | .revoke grant => (Grant.parseId grant).map fun g => .vault (.revoke g)
  | .validate => .ok (.vault .validate)
  | .settings .validate => .ok .check
  | .settings _ | .version => .ok .show

/-- What the program comes to: an end at once, or one after talking to the vault. -/
inductive Plan where
  | stop (ending : Ending)
  /-- The ending depends on what the program notes and gives. -/
  | talk (connection : Http.Connection) (program : Vault.Program (Except Failure String))
      (ending : List LogLine → Except Failure String → Ending)

/-- The plan for a command with the settings in force. -/
def planLoaded (start : Surroundings) (i : Invocation) (s : Settings) : Plan :=
  let source := sourceLine (start.settingsFile i)
  let ending := Ending.logged start.disk s.logging
  match stepOf i.command with
  | .error fault => .stop (ending [source] (.error (.id fault)))
  | .ok .show => .stop (ending [source] (.ok (shownSettings s)))
  | .ok .check =>
    let (log, result) := checkSettings s
    .stop (ending (source :: log) result)
  | .ok (.vault task) =>
    match connect s with
    | .error failure => .stop (ending [source] (.error failure))
    | .ok c =>
      let connecting : LogLine := ⟨.info, "Connecting to Vault at " ++ s.vault.address⟩
      .talk c (task.program s) fun log => ending (source :: connecting :: log)

/-- The plan for what the program finds when it starts. -/
def plan (start : Surroundings) : Plan :=
  match CommandLine.read start.words with
  | .error .help => .stop (.quiet start.disk (.ok (help ++ "\n")))
  | .error .version => .stop (.quiet start.disk (.ok (title ++ "\n")))
  | .error stop => .stop (.quiet start.disk (.error (.usage stop)))
  | .ok i =>
    match i.command with
    | .version => .stop (.quiet start.disk (.ok (title ++ "\n")))
    | .settings .init => .stop (writeDefault start.disk (i.file.getD defaultFile))
    | _ =>
      match start.settings i with
      | .error failure => .stop (.quiet start.disk (.error failure))
      | .ok s => planLoaded start i s

/-- Carry out a plan over a wire. -/
def Plan.run {σ : Type} (wire : Http.Wire σ) (p : Plan) (state : σ) : Ending × σ :=
  match p with
  | stop ending => (ending, state)
  | talk c program ending =>
    let carried : Http.Wire (σ × List LogLine) := fun m (s, log) =>
      let (delivery, s) := wire m s
      (delivery, s, log)
    let gateway := c.gateway carried fun line (s, log) => (s, line :: log)
    let (result, state, log) := program.run gateway (state, [])
    (ending log.reverse result, state)

/-- Run the program over a wire. -/
def run {σ : Type} (wire : Http.Wire σ) (start : Surroundings) (state : σ) : Ending × σ :=
  (plan start).run wire state

end VaultAccess.App
