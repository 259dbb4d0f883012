import CertaintyFactor.Service
import CertaintyFactor.Settings.Read

/-!
# Failures of commands

Why a command fails, and what it says then.
-/

set_option autoImplicit false

namespace CertaintyFactor.Cli

inductive Error where
  | settings (reason : Settings.Error)
  | catalog (reason : Catalog.Error)
  | service (reason : Service.Error)
  | session (reason : Session.Error)
  | noCatalog
  | noStore
  /-- A catalog with warnings, and how many there are. -/
  | inconsistent (count : Nat)
deriving DecidableEq

def Error.message : Error → String
  | settings reason => s!"Configuration error: {reason.message}"
  | catalog reason => reason.message
  | service reason => reason.message
  | session reason => reason.message
  | noCatalog =>
    "No catalog file given (use --catalog, CFDX_CATALOG or `catalog` in the config file)"
  | noStore =>
    "No session store configured (use --store or `sessions.store` in the config file)"
  | inconsistent count => s!"Catalog has {count} integrity issue(s)"

end CertaintyFactor.Cli
