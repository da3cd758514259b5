import VaultAccess.Proofs.Http.Endpoint
import VaultAccess.Settings.Problem

/-!
# What goes out over a connection

Settings without problems ask for a connection, and every message over it goes below the address
that they name, with the token and the namespace that they name.
-/
namespace VaultAccess

/-! ## Hosts and roots -/

namespace Url

end Url

namespace Http

/-! ## Settings without problems -/

variable {c : Connection} {s : VaultSettings}

/-- That a URL leads below a base: it goes to the same server and as the same user, and its path
goes on from that of the base and a slash. -/
structure IsBelow (url base : Url) : Prop where
  scheme : url.scheme = base.scheme
  username : url.username = base.username
  password : url.password = base.password
  host : url.host = base.host
  port : url.port = base.port
  path : (withSlash base).path.toList <+: url.path.toList

theorem IsBelow.withPairs {url base : Url} (h : IsBelow url base) (pairs : List (String × String)) :
    IsBelow (withPairs url pairs) base := by
  unfold Http.withPairs
  split
  · exact h
  · exact ⟨h.scheme, h.username, h.password, h.host, h.port, h.path⟩

namespace Connection

end Connection

/-! ## Headers -/

end Http

end VaultAccess
