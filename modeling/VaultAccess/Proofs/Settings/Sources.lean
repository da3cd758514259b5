import VaultAccess.App
import VaultAccess.Proofs.Decode.Fields

/-!
# Where settings come from

Every setting in force has one source: an option, a variable, the document in the file, or the
default, the first of these that gives it. Only the address and what identifies the caller can be
overridden; all else is what the document says, or its default.
-/
namespace VaultAccess

open Decode

variable {V E : Type} {d : Dialect V E} {v : V}

/-! ## Documents -/

/-- The settings of a vault that a document gives: each is what its value is read as, or its
default. -/
def VaultSettings.SaidBy (d : Dialect V E) (v : V) (s : VaultSettings) : Prop :=
  ∃ parts, d.record "struct VaultConfig" v = .ok parts ∧
    parts.Says "address" 0 (fun v a => d.text v = .ok a) VaultSettings.defaultAddress s.address ∧
    parts.Says "token" 1 (fun v a => d.optional d.text v = .ok a) none s.token ∧
    parts.Says "namespace" 2 (fun v a => d.optional d.text v = .ok a) none s.namespace ∧
    parts.Says "timeoutSecs" 3 (fun v a => d.word "u64" v = .ok a) 30 s.timeoutSecs

/-- The size of a page that a document gives. -/
def SyncSettings.SaidBy (d : Dialect V E) (v : V) (s : SyncSettings) : Prop :=
  ∃ parts, d.record "struct SyncConfig" v = .ok parts ∧
    parts.Says "pageSize" 0 (fun v a => d.word "usize" v = .ok a) 1000 s.pageSize

/-- The settings of the log that a document gives. -/
def LogSettings.SaidBy (d : Dialect V E) (v : V) (s : LogSettings) : Prop :=
  ∃ parts, d.record "struct LoggingConfig" v = .ok parts ∧
    parts.Says "level" 0 (fun v a => LogSettings.readLevel d v = .ok a) .info s.level ∧
    parts.Says "json" 1 (fun v a => d.flag v = .ok a) false s.json

namespace Settings

/-- The settings that a document gives: each part by itself, or its default. -/
def SaidBy (d : Dialect V E) (v : V) (s : Settings) : Prop :=
  ∃ parts, d.record "struct Config" v = .ok parts ∧
    parts.Says "vault" 0 (VaultSettings.SaidBy d) .default s.vault ∧
    parts.Says "sync" 1 (SyncSettings.SaidBy d) .default s.sync ∧
    parts.Says "backends" 2 (fun v a => d.listOf (Backend.read d) v = .ok a) Backend.defaults
      s.backends ∧
    parts.Says "logging" 3 (LogSettings.SaidBy d) .default s.logging

/-- The settings that the text of a file gives, in the notation that its name asks for. -/
def WrittenIn (path text : String) (s : Settings) : Prop :=
  match Notation.ofPath path with
  | .yaml => ∃ n, Yaml.Node.ofText? text = some n ∧ s.SaidBy Yaml.dialect n
  | .toml => ∃ es, Toml.document? text = some es ∧ s.SaidBy Toml.dialect (.table .header es)
  | .json =>
    (∃ v, Json5.ofText? text = some v ∧ s.SaidBy Json5.dialect v) ∨
      ∃ r, Json.Raw.ofText? text = some r ∧ s.SaidBy Json.Raw.dialect r

/-- The settings before anything overrides them: those that the file gives, or the default where
there is no file. -/
def Given (d : Disk) (located : Option String) (s : Settings) : Prop :=
  match located with
  | none => s = .default
  | some path => ∃ content text, d.entry? path = some (.file content) ∧
      content.length ≤ maxFileSize ∧ Text.Utf8.decode content = .ok text ∧ s.WrittenIn path text

end Settings

/-! ## Variables -/

namespace App

open CommandLine (Invocation)

end App

end VaultAccess
