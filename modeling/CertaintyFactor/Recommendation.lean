import CertaintyFactor.Evaluation

/-!
# Recommendations

The advice drawn from the best ranked candidate. It goes by the rounded percentage, so it always
agrees with the number shown beside it.
-/

set_option autoImplicit false

namespace CertaintyFactor

/-- What to do about the best ranked candidate. -/
inductive Advice where
  | repair
  | inspect
  | checkOtherSymptoms
deriving DecidableEq, Repr

namespace Advice

/-- The least percentage to repair at. -/
abbrev repairFrom : Int := 70

/-- The least percentage to inspect at. -/
abbrev inspectFrom : Int := 50

def ofPercentage (percentage : Int) : Advice :=
  if repairFrom ≤ percentage then repair
  else if inspectFrom ≤ percentage then inspect
  else checkOtherSymptoms

def name : Advice → String
  | repair => "repair"
  | inspect => "inspect"
  | checkOtherSymptoms => "check_other_symptoms"

def message (damage : String) (percentage : Int) : Advice → String
  | repair =>
    s!"The reported symptoms most likely point to {damage} (" ++
      Decimal.integerText percentage ++
      "% certainty). Repair it according to the given solution."
  | inspect =>
    s!"The reported symptoms may point to {damage} (" ++ Decimal.integerText percentage ++
      "% certainty). Inspect further or consult a mechanic."
  | checkOtherSymptoms =>
    "Diagnosis confidence is still low (" ++ Decimal.integerText percentage ++
      "%). Check for other symptoms or consult an experienced mechanic."

end Advice

/-- The advice on a ranked list. -/
structure Recommendation where
  advice : Advice
  damageId : String
  damageName : String
  percentage : Int
  message : String
deriving DecidableEq, Repr

/-- The advice on the first candidate of a ranked list, none on an empty one. -/
def Recommendation.ofResults? {K : Type} (results : List (Candidate K)) : Option Recommendation :=
  results.head?.map fun top =>
    let advice := Advice.ofPercentage top.percentage
    { advice := advice
      damageId := top.damageId
      damageName := top.name
      percentage := top.percentage
      message := advice.message top.name top.percentage }

end CertaintyFactor
