import CertaintyFactor.Decimal.Layout

/-!
# Integrity warnings

Inconsistencies of a catalog that stop nothing: what they concern is left out or passed over, and
the work goes on.
-/

set_option autoImplicit false

namespace CertaintyFactor

/-- The lists of a catalog. -/
inductive Collection where
  | symptoms
  | damages
  | rules
deriving DecidableEq, Repr

def Collection.singular : Collection → String
  | symptoms => "symptom"
  | damages => "damage"
  | rules => "rule"

/-- A collection in words. -/
def Collection.plural : Collection → String
  | symptoms => "symptoms"
  | damages => "damages"
  | rules => "rules"

/-- An inconsistency of a catalog. -/
inductive Warning (K : Type) where
  /-- A rule names a damage that is neither carried by it nor listed. -/
  | unknownDamage (ruleId damageId : String)
  /-- A rule entry names a symptom that is not listed. -/
  | unknownSymptom (ruleId symptomId : String)
  /-- A code stands in a list again; the list is named in words. -/
  | duplicateCode (collection code : String)
  /-- A rule has no entries. -/
  | emptyRule (ruleId : String)
  /-- A rule names a symptom again. -/
  | repeatedSymptom (ruleId symptomId : String)
  /-- An expert's certainty is out of its range. -/
  | expertOutOfRange (ruleId symptomId : String) (cfExpert : K)
deriving DecidableEq, Repr

namespace Warning

def kind {K : Type} : Warning K → String
  | unknownDamage .. => "unknown_damage"
  | unknownSymptom .. => "unknown_symptom"
  | duplicateCode .. => "duplicate_code"
  | emptyRule .. => "empty_rule"
  | repeatedSymptom .. => "repeated_rule_symptom"
  | expertOutOfRange .. => "expert_confidence_out_of_range"

def message : Warning Binary64 → String
  | unknownDamage rule damage => s!"rule {rule} references unknown damage {damage}"
  | unknownSymptom rule symptom => s!"rule {rule} references unknown symptom {symptom}"
  | duplicateCode collection code => s!"duplicate {collection} code {code}"
  | emptyRule rule => s!"rule {rule} has no symptoms"
  | repeatedSymptom rule symptom => s!"rule {rule} lists symptom {symptom} more than once"
  | expertOutOfRange rule symptom cf =>
    s!"rule {rule} gives symptom {symptom} expert confidence " ++ Decimal.Layout.plain.text cf ++
      " outside [-1, 1]"

end Warning

end CertaintyFactor
