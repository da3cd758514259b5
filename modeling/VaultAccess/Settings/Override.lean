import VaultAccess.Settings.File

/-!
# Overriding settings

Variables of the environment win over a file, the connector's own names over the common ones, and
flags over all of them.
-/
namespace VaultAccess.Settings

/-- Values that override those of a file. -/
structure Overrides where
  address : Option String
  token : Option String
  «namespace» : Option String
  deriving DecidableEq, Repr

/-- The overrides in variables. -/
def Overrides.ofVariables (env : String → Option String) : Overrides where
  address := env "BATON_VAULT_HOST" <|> env "VAULT_ADDR"
  token := env "BATON_VAULT_TOKEN" <|> env "VAULT_TOKEN"
  «namespace» := env "VAULT_NAMESPACE"

/-- The settings with overrides applied. -/
def override (s : Settings) (o : Overrides) : Settings :=
  { s with
    vault := { s.vault with
      address := o.address.getD s.vault.address
      token := o.token <|> s.vault.token
      «namespace» := o.namespace <|> s.vault.namespace } }

end VaultAccess.Settings
