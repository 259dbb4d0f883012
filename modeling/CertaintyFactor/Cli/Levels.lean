import CertaintyFactor.Cli.Report
import CertaintyFactor.Cli.Request
import CertaintyFactor.Level

/-!
# Showing the scales

The command that shows the answers offered for symptoms and the levels of results, the highest level
first.
-/

set_option autoImplicit false

namespace CertaintyFactor.Cli.Levels

def fromText (level : Level) : String :=
  if level.threshold.isFinite then Decimal.Layout.plain.text level.threshold ++ "%" else "-"

/-- The colour of a level: that of the certainty it begins at. -/
def colour (level : Level) : String :=
  (Tier.ofCertainty (level.threshold / 100)).colour

def document : Json :=
  .object [
    ("answers", .array (Answer.all.map fun a =>
      .object [("answer", .string a.label), ("cf", .float a.certainty)])),
    ("levels", .array (Level.all.reverse.map fun l =>
      .object [("level", .string l.label), ("from", .string (fromText l)),
        ("color", .string (colour l))]))]

def tables (styles : Bool) : Report :=
  .line "Symptom answers" ++
    .table styles ["answer", "cf"]
      (Answer.all.map fun a => [a.label, Decimal.Layout.plain.text a.certainty]) ++
    .lines ["", "Result levels"] ++
    .table styles ["level", "from", "color"]
      (Level.all.reverse.map fun l => [l.label, fromText l, colour l])

def report (styles : Bool) : Format → Report
  | .json => .json document
  | .table => tables styles

end CertaintyFactor.Cli.Levels
