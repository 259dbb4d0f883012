import CertaintyFactor.Decimal.Numeral
import CertaintyFactor.Selection
import CertaintyFactor.Text.Blank

/-!
# Selections as arguments

One report as it is typed: a symptom code, or a code and a certainty divided by the first equals
sign. White space around either counts for nothing. A code alone is reported with the certainty of
the answer that forms preselect.
-/

set_option autoImplicit false

namespace CertaintyFactor

inductive ArgumentError where
  /-- The text after the equals sign is no number; it and the code are kept as they were typed. -/
  | notNumber (code value : String)
  | noCode (text : String)
deriving DecidableEq, Repr

def ArgumentError.message : ArgumentError → String
  | notNumber code value => s!"invalid confidence `{value}` for symptom {code}"
  | noCode text => s!"missing symptom code in `{text}`"

namespace Reported

/-- A text before and after its first equals sign, if it has one. -/
def splitArgument (text : List Char) : List Char × Option (List Char) :=
  match text.span (· ≠ '=') with
  | (code, _ :: value) => (code, some value)
  | (code, []) => (code, none)

/-- The certainty of a report by what stands after its equals sign. -/
def argumentCertainty? : Option (List Char) → Option Binary64
  | some value => Decimal.Numeral.read? (Text.trim value)
  | none => some (default : Answer).certainty

def parse (text : String) : Except ArgumentError (Reported Binary64) :=
  let (code, value) := splitArgument text.toList
  match argumentCertainty? value with
  | none => .error (.notNumber (.ofList code) (.ofList (value.getD [])))
  | some cf =>
    let code := Text.trim code
    if code.isEmpty then .error (.noCode text) else .ok ⟨.ofList code, cf⟩

def argument (r : Reported Binary64) : String :=
  r.symptomId ++ "=" ++ Decimal.Layout.plain.text r.cfUser

end Reported

end CertaintyFactor
