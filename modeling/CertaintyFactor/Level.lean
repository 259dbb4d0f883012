import CertaintyFactor.Binary64.Arithmetic

/-!
# Confidence scales

The verbal level and the colour tier of a certainty. Both are read off inclusive lower bounds on the
certainty in percent. Certainties are not clamped; whatever reaches no bound, a NaN included, takes
the lowest step.
-/

set_option autoImplicit false

namespace CertaintyFactor

/-- The verbal scale of six levels, lowest first. -/
inductive Level where
  | notConfident
  | lowConfidence
  | somewhatConfident
  | fairlyConfident
  | confident
  | veryConfident
deriving DecidableEq, Repr

namespace Level

def all : List Level :=
  [notConfident, lowConfidence, somewhatConfident, fairlyConfident, confident, veryConfident]

/-- The inclusive lower bound of a level in percent. -/
def threshold : Level → Binary64
  | notConfident => .negativeInfinity
  | lowConfidence => 50
  | somewhatConfident => 60
  | fairlyConfident => 70
  | confident => 80
  | veryConfident => 90

def label : Level → String
  | notConfident => "Not confident"
  | lowConfidence => "Low confidence"
  | somewhatConfident => "Somewhat confident"
  | fairlyConfident => "Fairly confident"
  | confident => "Confident"
  | veryConfident => "Very confident"

def name : Level → String
  | notConfident => "not_confident"
  | lowConfidence => "low_confidence"
  | somewhatConfident => "somewhat_confident"
  | fairlyConfident => "fairly_confident"
  | confident => "confident"
  | veryConfident => "very_confident"

/-- The level of a certainty: the highest one whose bound it reaches. -/
def ofCertainty (cf : Binary64) : Level :=
  (all.reverse.find? fun level => level.threshold.le (cf * 100)).getD notConfident

end Level

/-- The colour scale of four tiers, highest first. -/
inductive Tier where
  | tier1
  | tier2
  | tier3
  | tier4
deriving DecidableEq, Repr

namespace Tier

def all : List Tier :=
  [tier1, tier2, tier3, tier4]

/-- The inclusive lower bound of a tier in percent. -/
def threshold : Tier → Binary64
  | tier1 => 80
  | tier2 => 60
  | tier3 => 40
  | tier4 => .negativeInfinity

def hex : Tier → String
  | tier1 => "#10b981"
  | tier2 => "#f59e0b"
  | tier3 => "#ef4444"
  | tier4 => "#6b7280"

def colour : Tier → String
  | tier1 => "green"
  | tier2 => "orange"
  | tier3 => "red"
  | tier4 => "gray"

def name : Tier → String
  | tier1 => "tier1"
  | tier2 => "tier2"
  | tier3 => "tier3"
  | tier4 => "tier4"

/-- The tier of a certainty: the highest one whose bound it reaches. -/
def ofCertainty (cf : Binary64) : Tier :=
  (all.find? fun tier => tier.threshold.le (cf * 100)).getD tier4

end Tier

end CertaintyFactor
