/-!
# Catalog records

What experts write down: symptoms, damages and the rules that lead from the one to the other. A
`RuleDefinition` refers to other records by code, as a catalog stores it; a `Rule` carries the
records it refers to, as far as they exist. The order of a rule's entries matters, since certainties
are combined in it. `K` is the type of certainty factors.
-/

set_option autoImplicit false

namespace CertaintyFactor

def unknownName : String := "Unknown"

/-- An observable condition. -/
structure Symptom where
  id : String
  name : String
  description : String := ""
deriving DecidableEq, Repr

/-- A candidate cause and how to mend it. -/
structure Damage where
  id : String
  name : String
  description : String := ""
  solution : String := ""
deriving DecidableEq, Repr

/-- A symptom that speaks for a rule's damage, and the expert's certainty that it does. -/
structure RuleDefinition.Entry (K : Type) where
  symptomId : String
  cfExpert : K
deriving DecidableEq, Repr

/-- A rule as a catalog stores it. -/
structure RuleDefinition (K : Type) where
  id : String
  damageId : String
  entries : List (RuleDefinition.Entry K) := []
deriving DecidableEq, Repr

/-- A rule entry joined with its symptom record, if there is one. -/
structure Rule.Entry (K : Type) where
  symptomId : String
  cfExpert : K
  symptom : Option Symptom := none
deriving DecidableEq, Repr

/-- A rule joined with its damage record, if there is one. -/
structure Rule (K : Type) where
  id : String
  damageId : String
  damage : Option Damage := none
  entries : List (Rule.Entry K) := []
deriving DecidableEq, Repr

/-- A catalog as it is stored: flat lists of records that refer to each other by code. Nothing keeps
a code from standing in a list twice. -/
structure Catalog (K : Type) where
  symptoms : List Symptom := []
  damages : List Damage := []
  rules : List (RuleDefinition K) := []
deriving DecidableEq, Repr

variable {K : Type}

def Rule.Entry.displayName (entry : Rule.Entry K) : String :=
  (entry.symptom.map (·.name)).getD unknownName

/-- A rule without entries can never match. -/
def Rule.isInert (rule : Rule K) : Bool :=
  rule.entries.isEmpty

def Rule.Entry.toDefinition (entry : Rule.Entry K) : RuleDefinition.Entry K :=
  ⟨entry.symptomId, entry.cfExpert⟩

def Rule.toDefinition (rule : Rule K) : RuleDefinition K :=
  ⟨rule.id, rule.damageId, rule.entries.map (·.toDefinition)⟩

end CertaintyFactor
