import CertaintyFactor.Decimal.Fixed
import CertaintyFactor.Evaluation

/-!
# Explanations

How the certainty of a candidate came about, step by step: first one product for each match, then
one combination for each match after the first. `steps` lists them all; `Cursor` walks them one by
one and can be copied or restarted.
-/

set_option autoImplicit false

namespace CertaintyFactor

/-- One line of a calculation. -/
inductive Step (K : Type) where
  /-- The product of a match's two certainties. -/
  | product (number : Nat) (evidence : Match K)
  /-- The certainty so far, combined with that of one more match. -/
  | combination (number : Nat) (running incoming combined : K)
deriving DecidableEq, Repr

namespace Step

variable {K : Type}

def number : Step K → Nat
  | product n _ => n
  | combination n .. => n

def result : Step K → K
  | product _ evidence => evidence.cfCombined
  | combination _ _ _ combined => combined

def kind : Step K → String
  | product .. => "product"
  | combination .. => "combination"

def description : Step K → String
  | product _ evidence => evidence.symptomName
  | combination .. => "CF combination"

/-- The calculation of a step, with certainties of intermediate results to four places. -/
def formula : Step Binary64 → String
  | product _ evidence =>
    "CF = CF_Expert × CF_User = " ++ Decimal.Layout.plain.text evidence.cfExpert ++ " × " ++
      Decimal.Layout.plain.text evidence.cfUser ++ " = " ++ Decimal.fixed 4 evidence.cfCombined
  | combination _ running incoming combined =>
    "CF = " ++ Decimal.fixed 4 running ++ " + " ++ Decimal.fixed 4 incoming ++ " × (1 - " ++
      Decimal.fixed 4 running ++ ") = " ++ Decimal.fixed 4 combined

def text (step : Step Binary64) : String :=
  s!"{step.number}. {step.description}: {step.formula}"

end Step

section

variable {K : Type} [Add K] [Sub K] [Mul K] [One K]

/-- The products of some matches, numbered from the given number on. -/
def productSteps (number : Nat) : List (Match K) → List (Step K)
  | [] => []
  | m :: rest => .product number m :: productSteps (number + 1) rest

/-- The combinations of some matches into a running certainty, numbered from the given number on. -/
def combinationSteps (number : Nat) (running : K) : List (Match K) → List (Step K)
  | [] => []
  | m :: rest =>
    let combined := combine running m.cfCombined
    .combination number running m.cfCombined combined ::
      combinationSteps (number + 1) combined rest

/-- All steps of a calculation. -/
def steps (matching : List (Match K)) : List (Step K) :=
  productSteps 1 matching ++
    match matching with
    | [] => []
    | first :: rest => combinationSteps (matching.length + 1) first.cfCombined rest

/-- A place in a calculation: the steps before `position` are done, and `running` is the certainty
combined so far. -/
structure Cursor (K : Type) where
  matching : List (Match K)
  position : Nat
  running : K
deriving DecidableEq, Repr

namespace Cursor

/-- What a walk breaks off with. -/
inductive Fault where
  /-- A match is looked up at an index past the end of their list. -/
  | indexOutOfRange (index length : Nat)
deriving DecidableEq, Repr

/-- The certainty of the first match is the first one so far. It is zero where there is none, but
then no step is made from it. -/
def start [Zero K] (matching : List (Match K)) : Cursor K :=
  ⟨matching, 0, (matching.head?.map (·.cfCombined)).getD 0⟩

def restart [Zero K] (c : Cursor K) : Cursor K :=
  start c.matching

def total (c : Cursor K) : Nat :=
  c.matching.length + (c.matching.length - 1)

def remaining (c : Cursor K) : Nat :=
  c.total - c.position

/-- Bounds of the number of steps still to come, of which both are exact. -/
def sizeHint (c : Cursor K) : Nat × Option Nat :=
  (c.remaining, some c.remaining)

def matchAt (c : Cursor K) (index : Nat) : Except Fault (Match K) :=
  match c.matching[index]? with
  | some m => .ok m
  | none => .error (.indexOutOfRange index c.matching.length)

/-- The next step and the place after it, none at the end. -/
def next (c : Cursor K) : Except Fault (Option (Step K × Cursor K)) :=
  let n := c.matching.length
  if c.total ≤ c.position then .ok none
  else if c.position < n then do
    let m ← c.matchAt c.position
    return some (.product (c.position + 1) m, { c with position := c.position + 1 })
  else do
    let m ← c.matchAt (c.position - n + 1)
    let combined := combine c.running m.cfCombined
    return some (.combination (c.position + 1) c.running m.cfCombined combined,
      { c with position := c.position + 1, running := combined })

/-- The step after the next `n`, and the place after it. Passing the end leaves the cursor there. -/
def nth (c : Cursor K) : Nat → Except Fault (Option (Step K) × Cursor K)
  | 0 => do
    match ← c.next with
    | some (step, c) => return (some step, c)
    | none => return (none, c)
  | n + 1 => do
    match ← c.next with
    | some (_, c) => c.nth n
    | none => return (none, c)

/-- The next steps, at most a given number of them, and the place after them. -/
def take (c : Cursor K) : Nat → Except Fault (List (Step K) × Cursor K)
  | 0 => return ([], c)
  | n + 1 => do
    match ← c.next with
    | some (step, c) =>
      let (rest, c) ← c.take n
      return (step :: rest, c)
    | none => return ([], c)

/-- The steps still to come, and the end. It takes one request more than there are steps to see that
there is no other. -/
def rest (c : Cursor K) : Except Fault (List (Step K) × Cursor K) :=
  c.take (c.remaining + 1)

end Cursor

end

/-- The closing line of a candidate's calculation. -/
def Candidate.conclusion (c : Candidate Binary64) : String :=
  "Final CF = " ++ Decimal.fixed 4 c.cf ++ " = " ++ Decimal.integerText c.percentage ++ "%"

def Candidate.steps {K : Type} [Confidence K] (c : Candidate K) : List (Step K) :=
  CertaintyFactor.steps c.matching

end CertaintyFactor
