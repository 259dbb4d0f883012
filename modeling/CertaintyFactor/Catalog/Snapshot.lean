import CertaintyFactor.Catalog.Record
import CertaintyFactor.Certainty
import CertaintyFactor.Warning

/-!
# Snapshots

A snapshot is a catalog joined and checked: each rule carries the records it refers to, as far as
they are listed, and everything inconsistent is noted as a warning. Where a code stands in a list
several times, its first record counts.
-/

set_option autoImplicit false

namespace CertaintyFactor

/-- A catalog at one revision, joined and checked. -/
structure Snapshot (K : Type) where
  revision : Nat
  symptoms : List Symptom
  damages : List Damage
  rules : List (Rule K)
  warnings : List (Warning K)
deriving DecidableEq, Repr

def Symptom.withCode? (symptoms : List Symptom) (code : String) : Option Symptom :=
  symptoms.find? (·.id == code)

def Damage.withCode? (damages : List Damage) (code : String) : Option Damage :=
  damages.find? (·.id == code)

/-- Each item, with whether its code stands at an item before it or among the codes seen already. -/
def flagRepeats {α : Type} (code : α → String) (seen : List String) : List α → List (α × Bool)
  | [] => []
  | a :: rest => (a, seen.contains (code a)) :: flagRepeats code (code a :: seen) rest

namespace Snapshot

variable {K : Type}

def symptom? (s : Snapshot K) (code : String) : Option Symptom :=
  Symptom.withCode? s.symptoms code

def damage? (s : Snapshot K) (code : String) : Option Damage :=
  Damage.withCode? s.damages code

def isConsistent (s : Snapshot K) : Bool :=
  s.warnings.isEmpty

end Snapshot

section

variable {K : Type}

def RuleDefinition.Entry.join (symptoms : List Symptom) (e : RuleDefinition.Entry K) :
    Rule.Entry K :=
  ⟨e.symptomId, e.cfExpert, Symptom.withCode? symptoms e.symptomId⟩

def RuleDefinition.join (symptoms : List Symptom) (damages : List Damage)
    (r : RuleDefinition K) : Rule K :=
  ⟨r.id, r.damageId, Damage.withCode? damages r.damageId, r.entries.map (·.join symptoms)⟩

def Warning.when (condition : Bool) (warning : Warning K) : List (Warning K) :=
  if condition then [warning] else []

def duplicateWarnings {α : Type} (collection : Collection) (code : α → String) (items : List α) :
    List (Warning K) :=
  (flagRepeats code [] items).flatMap fun (item, again) =>
    Warning.when again (.duplicateCode collection.singular (code item))

variable [Confidence K]

/-- The warnings about an entry, given whether its symptom stands earlier in the same rule. -/
def RuleDefinition.Entry.warnings (symptoms : List Symptom) (ruleId : String)
    (entry : RuleDefinition.Entry K) (again : Bool) : List (Warning K) :=
  Warning.when again (.repeatedSymptom ruleId entry.symptomId) ++
    Warning.when (!Confidence.validExpert entry.cfExpert)
      (.expertOutOfRange ruleId entry.symptomId entry.cfExpert) ++
    Warning.when (Symptom.withCode? symptoms entry.symptomId).isNone
      (.unknownSymptom ruleId entry.symptomId)

/-- The warnings about a rule, given whether its code stands at an earlier rule. -/
def RuleDefinition.warnings (symptoms : List Symptom) (damages : List Damage)
    (rule : RuleDefinition K) (again : Bool) : List (Warning K) :=
  Warning.when again (.duplicateCode Collection.rules.singular rule.id) ++
    Warning.when rule.entries.isEmpty (.emptyRule rule.id) ++
    Warning.when (Damage.withCode? damages rule.damageId).isNone
      (.unknownDamage rule.id rule.damageId) ++
    (flagRepeats (·.symptomId) [] rule.entries).flatMap fun (entry, again) =>
      entry.warnings symptoms rule.id again

namespace Catalog

/-- The warnings about a catalog: on symptom codes, on damage codes, then rule by rule. -/
def warnings (c : Catalog K) : List (Warning K) :=
  duplicateWarnings .symptoms (·.id) c.symptoms ++ duplicateWarnings .damages (·.id) c.damages ++
    (flagRepeats (·.id) [] c.rules).flatMap fun (rule, again) =>
      rule.warnings c.symptoms c.damages again

def snapshot (c : Catalog K) (revision : Nat) : Snapshot K where
  revision := revision
  symptoms := c.symptoms
  damages := c.damages
  rules := c.rules.map (·.join c.symptoms c.damages)
  warnings := c.warnings

end Catalog

end

end CertaintyFactor
