import CertaintyFactor.Cli.Report
import CertaintyFactor.Cli.Request
import CertaintyFactor.Document.Diagnosis
import CertaintyFactor.Level
import CertaintyFactor.Settings

/-!
# Diagnosing

The command that ranks damages for the reported symptoms. What it shows is a function of the outcome
of the diagnosis; the record of the session only adds its identifier to the document.
-/

set_option autoImplicit false

namespace CertaintyFactor.Cli

/-- The catalog named on the command line, or else in the settings. -/
def catalogFile (named : Option String) (settings : Settings) : Except Error FileCatalog :=
  match named <|> settings.catalog with
  | some path => (FileCatalog.ofPath path).mapError .catalog
  | none => .error .noCatalog

namespace DiagnoseRequest

/-! ## As a document -/

/-- The members of a result: those of the candidate, its level and colour, and its calculation if
that was asked for. -/
def resultMembers (r : DiagnoseRequest) (c : Candidate Binary64) : List (String × Json) :=
  c.members ++ [("level", .string (Level.ofCertainty c.cf).name),
    ("color", .string (Tier.ofCertainty c.cf).hex)] ++
    if r.explain then [("explanation", .array (c.steps.map Step.toJson))] else []

def sessionOf : Service.Recording → Option String
  | .stored record => some (Session.idText record.id)
  | _ => none

/-- An outcome as a document, with the session it was stored as. -/
def document (r : DiagnoseRequest) (o : Service.Outcome) (session : Option String) : Json :=
  .object ([("catalog_revision", .count o.revision)] ++
    Json.optional "session" (session.map .string) ++
    [("selection", .array (o.selection.map NamedSelection.toJson)),
      ("results", .array (o.results.map fun c => .object (r.resultMembers c)))] ++
    Json.optional "recommendation" (o.recommendation.map Recommendation.toJson) ++
    [("warnings", .array (o.warnings.map Warning.toJson))])

/-! ## As tables -/

def selectionRow (n : NamedSelection) : List String :=
  [n.symptomId, n.name, Decimal.Layout.plain.text n.cfUser, (n.answer.map Answer.label).getD "-"]

def resultRow (c : Candidate Binary64) : List String :=
  [Decimal.integerText c.rank, c.damageId, c.name, Decimal.fixed 4 c.cf,
    Decimal.integerText c.percentage ++ "%", (Level.ofCertainty c.cf).label,
    s!"{c.matched}/{c.total} (" ++ Decimal.fixed 0 (c.coverage * 100) ++ "%)"]

section

variable (styles : Bool)

def adviceMark : Advice → String
  | .repair => styled styles [.green] "✓"
  | .inspect => styled styles [.yellow] "⚠"
  | .checkOtherSymptoms => styled styles [.dimmed] "?"

/-- A recommendation, and what to bear in mind with it. -/
def recommendationLines (r : Recommendation) : List String :=
  ["", adviceMark styles r.advice ++ " " ++ r.message,
    "  " ++ styled styles [.dimmed]
      "This result is predictive and does not replace an inspection by a mechanic."]

def headline (c : Candidate Binary64) : String :=
  s!"#{c.rank} {c.damageId} {c.name} - " ++ Decimal.integerText c.percentage ++
    s!"% ({(Level.ofCertainty c.cf).label})"

def explanationLines (c : Candidate Binary64) : List String :=
  ["", styled styles [.bold, .ofTier (Tier.ofCertainty c.cf)] (headline c)] ++
    (if c.solution.isEmpty then [] else ["  Solution: " ++ c.solution]) ++
    c.steps.map (fun step => "  " ++ step.text) ++ ["  " ++ c.conclusion]

def resultsReport (r : DiagnoseRequest) (o : Service.Outcome) : Report :=
  if o.results.isEmpty then .warning styles "No damage matches the selected symptoms"
  else
    .line "" ++
      .table styles ["#", "code", "damage", "cf", "%", "level", "matched"]
        (o.results.map resultRow) ++
      .lines ((o.recommendation.map (recommendationLines styles)).getD []) ++
      .lines (if r.explain then o.results.flatMap (explanationLines styles) else [])

def tables (r : DiagnoseRequest) (o : Service.Outcome) : Report :=
  .join (o.warnings.map fun w => .warning styles w.message) ++
    .line "Selected symptoms:" ++
    .table styles ["code", "symptom", "cf", "answer"] (o.selection.map selectionRow) ++
    resultsReport styles r o

def report (r : DiagnoseRequest) (o : Service.Outcome) (recording : Service.Recording) : Report :=
  match r.format with
  | .json => .json (r.document o (sessionOf recording))
  | .table => tables styles r o

end

/-! ## The command -/

/-- The choices of an evaluation: those of the settings with those of the request over them. -/
def config (r : DiagnoseRequest) (settings : Settings) : Config where
  tieBreak := r.tieBreak.getD settings.engine.tieBreak
  strictRanges := r.strict || settings.engine.strictRanges

section

variable {m : Type → Type} [Monad m] [Disk m]

/-- Where the session is recorded: in the store of the settings, and in memory if there is none, if
it cannot be opened or if the session is to be left out of it. -/
def recorder (r : DiagnoseRequest) (settings : Settings) : m Session.Recorder := do
  match settings.store, r.noRecord with
  | some path, false =>
    match ← Session.Store.openAt path with
    | .ok store => return .store store
    | .error _ => return .memory {}
  | _, _ => return .memory {}

def run (styles : Bool) (stamp : Session.Stamp) (settings : Settings) (r : DiagnoseRequest) :
    m Ending := do
  match catalogFile r.catalog settings with
  | .error e => return .failed e
  | .ok file =>
    let service : Service := ⟨r.config settings, .file file, ← r.recorder settings⟩
    match (← service.diagnose stamp r.selection).1 with
    | .error e => return .failed (.service e)
    | .ok (outcome, recording) => return { report := r.report styles outcome recording }

end

end DiagnoseRequest

end CertaintyFactor.Cli
