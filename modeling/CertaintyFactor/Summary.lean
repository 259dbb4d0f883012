import CertaintyFactor.Evaluation

/-!
# Summaries

What is kept of a diagnosis once it is done: the selection and the ranked damages, without names and
explanations.
-/

set_option autoImplicit false

namespace CertaintyFactor

structure Summary.Symptom (K : Type) where
  symptomId : String
  cf : K
deriving DecidableEq, Repr

structure Summary.Ranked (K : Type) where
  damageId : String
  cf : K
  percentage : Int
  rank : Nat
deriving DecidableEq, Repr

/-- What is recorded of a diagnosis. -/
structure Summary (K : Type) where
  totalSymptoms : Nat
  totalResults : Nat
  symptoms : List (Summary.Symptom K)
  results : List (Summary.Ranked K)
deriving DecidableEq, Repr

namespace Summary

variable {K : Type}

/-- The summary of a selection and the candidates found for it. -/
def ofDiagnosis (selection : Selection K) (results : List (Candidate K)) : Summary K where
  totalSymptoms := selection.length
  totalResults := results.length
  symptoms := selection.map fun r => ⟨r.symptomId, r.cfUser⟩
  results := results.map fun c => ⟨c.damageId, c.cf, c.percentage, c.rank⟩

def top? (s : Summary K) : Option (Ranked K) :=
  s.results.head?

end Summary

end CertaintyFactor
