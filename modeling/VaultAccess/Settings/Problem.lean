import VaultAccess.Settings.Basic
import VaultAccess.Text.Edges
import VaultAccess.Url.Parse

/-!
# Problems with settings

What has to be put right before a vault can be asked anything: the address is an absolute HTTP URL,
there is a token, the limits are not zero, and every backend has a path and a type.
-/
namespace VaultAccess.Settings

/-- Something in settings that has to be put right. -/
inductive Problem where
  | address (fault : Url.Fault)
  | addressScheme
  | token
  | timeout
  | pageSize
  /-- The backend at this index has no path. -/
  | backendPath (index : Nat)
  /-- The backend at this index has no type. -/
  | backendType (index : Nat)
  deriving DecidableEq, Repr

namespace Problem

/-- Where in the settings the problem is. -/
def place : Problem → String
  | address _ => "vault.address"
  | addressScheme => "vault.address"
  | token => "vault.token"
  | timeout => "vault.timeoutSecs"
  | pageSize => "sync.pageSize"
  | backendPath i => "backends[" ++ Text.Decimal.write i ++ "].path"
  | backendType i => "backends[" ++ Text.Decimal.write i ++ "].type"

/-- What the problem is. -/
def message : Problem → String
  | address fault => "Invalid URL: " ++ fault.message
  | addressScheme => "Address must be an absolute http(s) URL"
  | token => "A Vault token is required"
  | timeout => "Timeout must be greater than 0"
  | pageSize => "Page size must be greater than 0"
  | backendPath _ => "Mount path is required"
  | backendType _ => "Backend type is required"

/-- A problem as one line. -/
def text (p : Problem) : String := p.place ++ ": " ++ p.message

end Problem

/-- The problem with an address, if it has one. -/
def addressProblem? (address : String) : Option Problem :=
  match Url.parse address with
  | .error fault => some (.address fault)
  | .ok url =>
    if (url.scheme = "http" ∨ url.scheme = "https") ∧ url.host.isSome then none
    else some .addressScheme

/-- Whether there is a token with anything but blanks in it. -/
def hasToken (token : Option String) : Bool :=
  token.any fun t => Text.trim t ≠ ""

/-- The problems with one backend. -/
def backendProblems (index : Nat) (b : Backend) : List Problem :=
  (if Text.trimSlashes b.path = "" then [.backendPath index] else []) ++
    if Text.trim b.engine = "" then [.backendType index] else []

/-- All problems, in the order of the settings. -/
def problems (s : Settings) : List Problem :=
  (addressProblem? s.vault.address).toList ++
    (if hasToken s.vault.token then [] else [.token]) ++
    (if s.vault.timeoutSecs = 0 then [.timeout] else []) ++
    (if s.sync.pageSize = 0 then [.pageSize] else []) ++
    s.backends.zipIdx.flatMap fun (b, i) => backendProblems i b

/-- All problems in one text. -/
def problemsText (ps : List Problem) : String :=
  "Configuration validation failed:\n" ++ "\n".intercalate (ps.map Problem.text)

/-- Settings without problems, or what is wrong with them. -/
def checked (s : Settings) : Except String Settings :=
  match s.problems with
  | [] => .ok s
  | ps => .error (problemsText ps)

end VaultAccess.Settings
