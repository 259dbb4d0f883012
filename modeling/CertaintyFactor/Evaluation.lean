import CertaintyFactor.Certainty
import CertaintyFactor.Selection
import CertaintyFactor.Warning

/-!
# Evaluation

The diagnosis of a selection against a list of rules. Each rule gets one `Verdict`: it has no
entries, none of its entries was reported, its damage is unknown, or it yields a candidate, whose
certainty combines the matched entries in the rule's order. `evaluate` collects the verdicts and
ranks the candidates.
-/

set_option autoImplicit false

namespace CertaintyFactor

inductive TieBreak where
  /-- By damage code, then by the order of the rules. -/
  | damageId
  /-- By the order of the rules. -/
  | ruleOrder
deriving DecidableEq, Repr

namespace TieBreak

instance : Inhabited TieBreak := ⟨damageId⟩

def name : TieBreak → String
  | damageId => "damage_id"
  | ruleOrder => "rule_order"

end TieBreak

/-- The choices an evaluation leaves open. -/
structure Config where
  tieBreak : TieBreak := .damageId
  /-- Whether certainties out of range are refused instead of carried through. -/
  strictRanges : Bool := false
deriving DecidableEq, Repr

def Config.strict : Config where
  strictRanges := true

inductive EvaluationError (K : Type) where
  | noRules
  | noSymptoms
  | userOutOfRange (symptomId : String) (value : K)
  | expertOutOfRange (ruleId symptomId : String) (value : K)
deriving DecidableEq, Repr

def EvaluationError.message : EvaluationError Binary64 → String
  | noRules => "no diagnosis rules are available"
  | noSymptoms => "no symptoms were selected"
  | userOutOfRange symptom value =>
    "user confidence " ++ Decimal.Layout.plain.text value ++
      s!" for symptom {symptom} is outside [0, 1]"
  | expertOutOfRange rule symptom value =>
    "expert confidence " ++ Decimal.Layout.plain.text value ++
      s!" for symptom {symptom} in rule {rule} is outside [-1, 1]"

/-- A rule entry that was reported. -/
structure Match (K : Type) where
  symptomId : String
  symptomName : String
  cfExpert : K
  cfUser : K
  cfCombined : K
deriving DecidableEq, Repr

/-- A candidate cause. -/
structure Candidate (K : Type) where
  damageId : String
  ruleId : String
  name : String
  description : String
  solution : String
  cf : K
  percentage : Int
  matching : List (Match K)
  /-- The number of the rule's entries. -/
  total : Nat
  /-- The number of those that were reported. -/
  matched : Nat
  /-- The place in the ranking, from 1. -/
  rank : Nat
deriving DecidableEq, Repr

/-- The share of the rule's entries that were reported. -/
def Candidate.coverage {K : Type} (c : Candidate K) : Binary64 :=
  if c.total = 0 then 0 else .ofNat c.matched / .ofNat c.total

/-- What became of a rule. -/
inductive Verdict (K : Type) where
  | inert
  | unmatched
  | dropped (ruleId damageId : String)
  | candidate (found : Candidate K)
deriving DecidableEq, Repr

/-- How many rules there were, and how many came to nothing for which reason. -/
structure Stats where
  total : Nat
  inert : Nat
  unmatched : Nat
  dropped : Nat
deriving DecidableEq, Repr

structure Diagnosis (K : Type) where
  results : List (Candidate K)
  warnings : List (Warning K)
  stats : Stats
deriving DecidableEq, Repr

section

variable {K : Type} [Confidence K]

def Rule.Entry.match? (selection : Selection K) (entry : Rule.Entry K) : Option (Match K) :=
  (selection.certainty? entry.symptomId).map fun cfUser =>
    { symptomId := entry.symptomId
      symptomName := entry.displayName
      cfExpert := entry.cfExpert
      cfUser := cfUser
      cfCombined := product entry.cfExpert cfUser }

namespace Rule

/-- The reported entries of a rule, in the rule's order. -/
def matching (rule : Rule K) (selection : Selection K) : List (Match K) :=
  rule.entries.filterMap (Entry.match? selection)

/-- The damage a rule leads to: the one it carries, else the first listed one of its code. -/
def damage? (rule : Rule K) (damages : List Damage) : Option Damage :=
  rule.damage <|> damages.find? (·.id == rule.damageId)

/-- The candidate that a rule with the given damage and matches yields, not yet ranked. -/
def candidate (rule : Rule K) (damage : Damage) (matching : List (Match K)) (cf : K) :
    Candidate K where
  damageId := damage.id
  ruleId := rule.id
  name := damage.name
  description := damage.description
  solution := damage.solution
  cf := cf
  percentage := Confidence.percent cf
  matching := matching
  total := rule.entries.length
  matched := matching.length
  rank := 0

/-- The first reported entry whose certainty is out of its range. -/
def outOfRange? (rule : Rule K) (selection : Selection K) : Option (Match K) :=
  (rule.matching selection).find? fun m => !Confidence.validExpert m.cfExpert

def verdict (rule : Rule K) (selection : Selection K) (damages : List Damage) : Verdict K :=
  if rule.isInert then .inert
  else
    let matching := rule.matching selection
    match combineAll? (matching.map (·.cfCombined)) with
    | none => .unmatched
    | some cf =>
      match rule.damage? damages with
      | none => .dropped rule.id rule.damageId
      | some damage => .candidate (rule.candidate damage matching cf)

/-- The verdict on a rule, unless ranges are checked and a reported entry is out of its range. -/
def judge (config : Config) (selection : Selection K) (damages : List Damage) (rule : Rule K) :
    Except (EvaluationError K) (Verdict K) :=
  match (if config.strictRanges then rule.outOfRange? selection else none) with
  | some bad => .error (.expertOutOfRange rule.id bad.symptomId bad.cfExpert)
  | none => .ok (rule.verdict selection damages)

end Rule

namespace Verdict

def candidate? : Verdict K → Option (Candidate K)
  | candidate found => some found
  | _ => none

def warning? : Verdict K → Option (Warning K)
  | dropped rule damage => some (.unknownDamage rule damage)
  | _ => none

def isInert : Verdict K → Bool
  | inert => true
  | _ => false

def isUnmatched : Verdict K → Bool
  | unmatched => true
  | _ => false

def isDropped : Verdict K → Bool
  | dropped .. => true
  | _ => false

end Verdict

def Stats.ofVerdicts (verdicts : List (Verdict K)) : Stats where
  total := verdicts.length
  inert := verdicts.countP (·.isInert)
  unmatched := verdicts.countP (·.isUnmatched)
  dropped := verdicts.countP (·.isDropped)

/-- Whether a candidate may stand before another one: it is more certain, or as certain and not put
behind it by the tie break. -/
def Candidate.precedes (tieBreak : TieBreak) (a b : Candidate K) : Bool :=
  match Confidence.compareCertainty a.cf b.cf with
  | .gt => true
  | .lt => false
  | .eq =>
    match tieBreak with
    | .damageId => a.damageId ≤ b.damageId
    | .ruleOrder => true

/-- Candidates in ranked order. Sorting is stable, so what is still tied keeps the order of the
rules. -/
def rank (tieBreak : TieBreak) (candidates : List (Candidate K)) : List (Candidate K) :=
  (candidates.mergeSort (Candidate.precedes tieBreak)).mapIdx fun i c => { c with rank := i + 1 }

/-- The first report whose certainty is out of its range. -/
def Selection.outOfRange? (selection : Selection K) : Option (Reported K) :=
  selection.find? fun r => !Confidence.validUser r.cfUser

/-- What keeps an evaluation from starting. -/
def refusal? (config : Config) (selection : Selection K) (rules : List (Rule K)) :
    Option (EvaluationError K) :=
  if rules.isEmpty then some .noRules
  else if selection.isEmpty then some .noSymptoms
  else if config.strictRanges then
    selection.outOfRange?.map fun r => .userOutOfRange r.symptomId r.cfUser
  else none

def evaluate (config : Config) (selection : Selection K) (rules : List (Rule K))
    (damages : List Damage) : Except (EvaluationError K) (Diagnosis K) :=
  match refusal? config selection rules with
  | some error => .error error
  | none => do
    let verdicts ← rules.mapM (Rule.judge config selection damages)
    return {
      results := rank config.tieBreak (verdicts.filterMap (·.candidate?))
      warnings := verdicts.filterMap (·.warning?)
      stats := .ofVerdicts verdicts }

def Diagnosis.top? (d : Diagnosis K) : Option (Candidate K) :=
  d.results.head?

def Diagnosis.isEmpty (d : Diagnosis K) : Bool :=
  d.results.isEmpty

end

end CertaintyFactor
