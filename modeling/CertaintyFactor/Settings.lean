import CertaintyFactor.Document.Diagnosis

/-!
# Settings

What a user can settle once for all runs of the program: the catalog, the choices of the evaluation,
the session store and the logging.
-/

set_option autoImplicit false

namespace CertaintyFactor

structure Settings where
  /-- The catalog file that is used when no other one is named. -/
  catalog : Option String := none
  engine : Config := {}
  /-- The file that sessions are recorded in. -/
  store : Option String := none
  logLevel : String := "warn"
  logJson : Bool := false
deriving DecidableEq, Repr

def Settings.toJson (s : Settings) : Json :=
  .object (Json.optional "catalog" (s.catalog.map .string) ++ [
    ("engine", s.engine.toJson),
    ("sessions", .object (Json.optional "store" (s.store.map .string))),
    ("logging", .object [("level", .string s.logLevel), ("json", .bool s.logJson)])])

end CertaintyFactor
