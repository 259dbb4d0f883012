import CertaintyFactor.Cli.Diagnose

/-!
# Checking catalogs

The command that counts the records of a catalog and shows its warnings. It fails when there are
any.
-/

set_option autoImplicit false

namespace CertaintyFactor.Cli.Validate

def document (s : Snapshot Binary64) : Json :=
  .object [("symptoms", .count s.symptoms.length), ("damages", .count s.damages.length),
    ("rules", .count s.rules.length), ("consistent", .bool s.isConsistent),
    ("warnings", .array (s.warnings.map Warning.toJson))]

def text (styles : Bool) (path : String) (s : Snapshot Binary64) : Report :=
  let counts :=
    s!"{s.symptoms.length} symptoms, {s.damages.length} damages, {s.rules.length} rules"
  if s.isConsistent then .success styles s!"{path} is consistent: {counts}"
  else
    .line s!"{path}: {counts}" ++ .join (s.warnings.map fun w => .warning styles w.message)

def ending (styles : Bool) (format : Format) (path : String) (s : Snapshot Binary64) : Ending where
  report := match format with
    | .json => .json (document s)
    | .table => text styles path s
  failure := if s.warnings.isEmpty then none else some (.inconsistent s.warnings.length)

/-- Checks the catalog named on the command line, or else in the settings. -/
def run {m : Type → Type} [Monad m] [Disk m] (styles : Bool) (settings : Settings)
    (catalog : Option String) (format : Format) : m Ending := do
  match catalogFile catalog settings with
  | .error e => return .failed e
  | .ok file =>
    match (← file.snapshot).1 with
    | .error e => return .failed (.catalog e)
    | .ok snapshot => return ending styles format file.path snapshot

end CertaintyFactor.Cli.Validate
