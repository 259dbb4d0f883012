/-!
# Environments

The environment of a run: names with their values.
-/

set_option autoImplicit false

namespace CertaintyFactor

/-- The names an environment sets, with their values. -/
abbrev Environment := List (String × String)

end CertaintyFactor
