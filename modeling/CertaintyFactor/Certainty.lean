import CertaintyFactor.Binary64.Arithmetic

/-!
# Certainty factors

The arithmetic of certainty: a piece of evidence weighs the expert's certainty in a rule entry times
the user's certainty in the symptom, and corroborating pieces are combined one after the other by
`combine`. The definitions are stated over any type with the operations they need, so that they can
be read in binary64 numbers, where evaluation runs, as well as in a field, where their algebra
holds.
-/

set_option autoImplicit false

namespace CertaintyFactor

section Arithmetic

variable {K : Type}

/-- The certainty of one piece of evidence. -/
def product [Mul K] (cfExpert cfUser : K) : K :=
  cfExpert * cfUser

/-- The certainty of two corroborating pieces of evidence. -/
def combine [Add K] [Sub K] [Mul K] [One K] (a b : K) : K :=
  a + b * (1 - a)

/-- All pieces of evidence combined in order, starting from the first; none when there is none. -/
def combineAll? [Add K] [Sub K] [Mul K] [One K] : List K → Option K
  | [] => none
  | first :: rest => some (rest.foldl combine first)

end Arithmetic

/-- A type of certainty factors: its arithmetic, its valid ranges, its percentages and the order in
which results are ranked. -/
class Confidence (K : Type) extends Add K, Sub K, Mul K, One K where
  /-- Whether a user may hold this certainty: a finite one in `[0, 1]`. -/
  validUser : K → Bool
  /-- Whether an expert may hold this certainty: a finite one in `[-1, 1]`. -/
  validExpert : K → Bool
  percent : K → Int
  compareCertainty : K → K → Ordering

namespace Binary64

instance : Zero Binary64 := ⟨ofNat 0⟩

instance : One Binary64 := ⟨ofNat 1⟩

/-- Certainties in binary64 arithmetic are ranked by `orderKey`: negative zero below positive zero,
and a NaN level with negative infinity. -/
instance : Confidence Binary64 where
  validUser x := x.isFinite && le 0 x && le x 1
  validExpert x := x.isFinite && le (-1) x && le x 1
  percent := percent
  compareCertainty x y := compare x.orderKey y.orderKey

/-- A finite number from `low` to `high`. -/
def Within (x low high : Binary64) : Prop :=
  x.isFinite ∧ low.le x ∧ x.le high

instance (x low high : Binary64) : Decidable (x.Within low high) :=
  inferInstanceAs (Decidable (_ ∧ _))

theorem validUser_iff {x : Binary64} : Confidence.validUser x ↔ x.Within 0 1 := by
  simp [Confidence.validUser, Within, and_assoc]

theorem validExpert_iff {x : Binary64} : Confidence.validExpert x ↔ x.Within (-1) 1 := by
  simp [Confidence.validExpert, Within, and_assoc]

end Binary64

end CertaintyFactor
