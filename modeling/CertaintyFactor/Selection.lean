import CertaintyFactor.Catalog.Record
import CertaintyFactor.Decimal.Layout

/-!
# Selections

What a user reports: symptoms, each with the certainty that it is present. Forms offer the five
answers of `Answer`; any other number is carried through.
-/

set_option autoImplicit false

namespace CertaintyFactor

/-- One symptom a user reports. -/
structure Reported (K : Type) where
  symptomId : String
  cfUser : K
deriving DecidableEq, Repr

/-- Reported symptoms, in the order given. -/
abbrev Selection (K : Type) := List (Reported K)

/-- The certainty given for a symptom; the first report of a symptom counts. -/
def Selection.certainty? {K : Type} (selection : Selection K) (id : String) : Option K :=
  (selection.find? (·.symptomId == id)).map (·.cfUser)

/-- The scale of answers offered to users. -/
inductive Answer where
  | unsure
  | slightlySure
  | fairlySure
  | sure
  | certain
deriving DecidableEq, Repr

namespace Answer

def all : List Answer :=
  [unsure, slightlySure, fairlySure, sure, certain]

/-- The answer preselected in forms. -/
instance : Inhabited Answer := ⟨fairlySure⟩

def certainty : Answer → Binary64
  | unsure => 0.2
  | slightlySure => 0.4
  | fairlySure => 0.6
  | sure => 0.8
  | certain => 1

def label : Answer → String
  | unsure => "Unsure"
  | slightlySure => "Slightly sure"
  | fairlySure => "Fairly sure"
  | sure => "Sure"
  | certain => "Certain"

def name : Answer → String
  | unsure => "unsure"
  | slightlySure => "slightly_sure"
  | fairlySure => "fairly_sure"
  | sure => "sure"
  | certain => "certain"

def text (a : Answer) : String :=
  a.label ++ " (" ++ Decimal.Layout.plain.text a.certainty ++ ")"

/-- How near a certainty has to be to that of an answer. -/
def tolerance : Binary64 := 1e-9

/-- The answer a certainty stands for, if it is within `tolerance` of one. -/
def ofCertainty? (cf : Binary64) : Option Answer :=
  all.find? fun answer => (answer.certainty - cf).abs.lt tolerance

end Answer

/-- A report echoed with its catalog name and its answer. -/
structure NamedSelection where
  symptomId : String
  name : String
  cfUser : Binary64
  answer : Option Answer := none
deriving DecidableEq

/-- A report named after its symptom record. -/
def Reported.named (reported : Reported Binary64) (symptom : Option Symptom) : NamedSelection where
  symptomId := reported.symptomId
  name := (symptom.map (·.name)).getD unknownName
  cfUser := reported.cfUser
  answer := Answer.ofCertainty? reported.cfUser

end CertaintyFactor
