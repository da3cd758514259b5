import VaultAccess.App
import VaultAccess.Backend.Basic
import VaultAccess.Backend.Bootstrap
import VaultAccess.CommandLine
import VaultAccess.Connector.Basic
import VaultAccess.Connector.FullSync
import VaultAccess.Connector.Locks
import VaultAccess.Connector.Membership
import VaultAccess.Connector.Session
import VaultAccess.Decode.Record
import VaultAccess.Disk
import VaultAccess.Fault
import VaultAccess.Graph.Document
import VaultAccess.Graph.Entitlement
import VaultAccess.Graph.Kind
import VaultAccess.Graph.Projection
import VaultAccess.Graph.Resource
import VaultAccess.Http.Connection
import VaultAccess.Http.Message
import VaultAccess.Http.Octets
import VaultAccess.Http.Redirect
import VaultAccess.Json.Decode
import VaultAccess.Json.Mismatch
import VaultAccess.Json.Raw
import VaultAccess.Json.RawDecode
import VaultAccess.Json.Reader
import VaultAccess.Json.Scan
import VaultAccess.Json.Value
import VaultAccess.Json.Writer
import VaultAccess.Json5.Decode
import VaultAccess.Json5.Scan
import VaultAccess.Json5.Value
import VaultAccess.Main
import VaultAccess.Number.Binary64
import VaultAccess.Number.Shortest
import VaultAccess.Paging.Codec
import VaultAccess.Paging.Cursor
import VaultAccess.Paging.Step
import VaultAccess.Settings.Basic
import VaultAccess.Settings.File
import VaultAccess.Settings.Override
import VaultAccess.Settings.Problem
import VaultAccess.Text.Base64Url
import VaultAccess.Text.Decimal
import VaultAccess.Text.Digits
import VaultAccess.Text.Edges
import VaultAccess.Text.Fields
import VaultAccess.Text.Invisible
import VaultAccess.Text.Letters
import VaultAccess.Text.Percent
import VaultAccess.Text.Quoted
import VaultAccess.Text.Utf8
import VaultAccess.Toml.Decode
import VaultAccess.Toml.Document
import VaultAccess.Toml.Scalar
import VaultAccess.Toml.Value
import VaultAccess.Toml.Writer
import VaultAccess.Url.Basic
import VaultAccess.Url.Domain
import VaultAccess.Url.Idna.Composition
import VaultAccess.Url.Idna.Mapping
import VaultAccess.Url.Idna.Normal
import VaultAccess.Url.Idna.Properties
import VaultAccess.Url.Idna.Table
import VaultAccess.Url.Ip
import VaultAccess.Url.Parse
import VaultAccess.Url.Punycode
import VaultAccess.Variables
import VaultAccess.Vault.Abort
import VaultAccess.Vault.Client
import VaultAccess.Vault.Exchange
import VaultAccess.Vault.Payload
import VaultAccess.Vault.Program
import VaultAccess.Vault.Record
import VaultAccess.Yaml.Decode
import VaultAccess.Yaml.Node
import VaultAccess.Yaml.Place
import VaultAccess.Yaml.Scalar
import VaultAccess.Yaml.Token
import VaultAccess.Yaml.Writer
import VaultAccess.Proofs.Text.Utf8
import VaultAccess.Proofs.Text.Base64Url
import VaultAccess.Proofs.Text.Decimal
import VaultAccess.Proofs.Text.Percent
import VaultAccess.Proofs.Json.Strings
import VaultAccess.Proofs.Paging.Codec
import VaultAccess.Proofs.Vault.Evaluation
import VaultAccess.Proofs.Vault.Trace
import VaultAccess.Proofs.Connector.Change
import VaultAccess.Proofs.Vault.Bodies
import VaultAccess.Proofs.Vault.Server
import VaultAccess.Proofs.Connector.Exclusion
import VaultAccess.Proofs.Connector.LockTable
import VaultAccess.Proofs.Vault.Replay
import VaultAccess.Proofs.Vault.Rows
import VaultAccess.Proofs.Connector.Passes
import VaultAccess.Proofs.Connector.Mounting
import VaultAccess.Proofs.Connector.Turns
import VaultAccess.Proofs.Connector.Writes
import VaultAccess.Proofs.Connector.Ledger
import VaultAccess.Proofs.Vault.Reading
import VaultAccess.Proofs.Connector.Drain
import VaultAccess.Proofs.Json.Members
import VaultAccess.Proofs.Connector.Pages
import VaultAccess.Proofs.Connector.Sync
import VaultAccess.Proofs.Paging.Frames
import VaultAccess.Proofs.Paging.Walk
import VaultAccess.Proofs.Paging.Windows
import VaultAccess.Proofs.Paging.Inner
import VaultAccess.Proofs.Vault.Acceptance
import VaultAccess.Proofs.Connector.Heeding
import VaultAccess.Proofs.Connector.Losses
import VaultAccess.Connector.Callers
import VaultAccess.Proofs.Connector.Callers
import VaultAccess.Proofs.Connector.OnePass
import VaultAccess.Proofs.Connector.Sessions
import VaultAccess.Proofs.Graph.Ids
import VaultAccess.Proofs.Url.Paths
import VaultAccess.Proofs.Url.Join
import VaultAccess.Proofs.Vault.UserPaths
import VaultAccess.Proofs.Http.Endpoint
import VaultAccess.Proofs.Connector.Visits
import VaultAccess.Proofs.Connector.Episodes
import VaultAccess.Proofs.Connector.UserNames
import VaultAccess.Proofs.Connector.Reports
import VaultAccess.Proofs.Decode.Fields
import VaultAccess.Proofs.Vault.Identities
import VaultAccess.Proofs.Connector.Identity
import VaultAccess.Proofs.Connector.Served
import VaultAccess.Proofs.Connector.Growth
import VaultAccess.Proofs.Connector.Loops
import VaultAccess.Proofs.Connector.Strides
import VaultAccess.Proofs.Connector.Nesting
import VaultAccess.Proofs.Connector.Revocation
import VaultAccess.Connector.Race
import VaultAccess.Proofs.Vault.Abort
import VaultAccess.Proofs.Json.Arrangement
import VaultAccess.Proofs.Documents
import VaultAccess.Proofs.Connector.Races
import VaultAccess.Proofs.Vault.Disturbed
import VaultAccess.Proofs.Connector.Stillness
import VaultAccess.Proofs.Connector.Retries
import VaultAccess.Proofs.Paging.OneStep
import VaultAccess.Proofs.Graph.Grammar
import VaultAccess.Proofs.Graph.Listed
import VaultAccess.Proofs.Connector.Slugs
import VaultAccess.Proofs.Json.Lexemes
import VaultAccess.Proofs.Json.Grammar
import VaultAccess.Proofs.Paging.Readers
import VaultAccess.Proofs.Paging.Grammar
import VaultAccess.Proofs.Settings.Sources
import VaultAccess.Proofs.Settings.Written
import VaultAccess.Proofs.Http.Outgoing
import VaultAccess.Proofs.Http.Sequel
import VaultAccess.Proofs.Json.Layout
import VaultAccess.Proofs.App.Sending
import VaultAccess.Proofs.App.Showing
import VaultAccess.Proofs.Paging.Phases
