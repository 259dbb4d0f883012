import CertaintyFactor.Catalog.File
import CertaintyFactor.Catalog.Store
import CertaintyFactor.Recommendation
import CertaintyFactor.Session.Recorder

/-!
# The diagnosis service

Ties a catalog, an evaluation and a recorder together. A diagnosis takes the current snapshot of the
catalog, evaluates the selection on it and, when anything was found, has its summary recorded.
Whether recording succeeds makes no difference to the answer.
-/

set_option autoImplicit false

namespace CertaintyFactor

/-- Where a service takes its catalog from. -/
inductive Source where
  /-- A catalog in memory that can be edited. -/
  | store (catalog : CatalogStore Binary64)
  /-- Fixed lists, which have no revisions. -/
  | listed (catalog : Catalog Binary64)
  | file (catalog : FileCatalog)
deriving DecidableEq

/-- The current snapshot of a source. -/
def Source.snapshot {m : Type → Type} [Monad m] [Disk m] :
    Source → m (Except Catalog.Error (Snapshot Binary64) × Source)
  | store catalog =>
    let (shared, catalog) := catalog.snapshot
    return (.ok shared.snapshot, store catalog)
  | listed catalog => return (.ok (catalog.snapshot 0), listed catalog)
  | file catalog => do
    let (result, catalog) ← catalog.snapshot
    return (result, file catalog)

namespace Service

inductive Error where
  | catalog (reason : Catalog.Error)
  | evaluation (reason : EvaluationError Binary64)
deriving DecidableEq

def Error.message : Error → String
  | catalog reason => reason.message
  | evaluation reason => reason.message

/-- What became of the record of a diagnosis. -/
inductive Recording where
  /-- Nothing was found, so there was nothing to record. -/
  | skipped
  | failed (reason : Session.Error)
  | stored (record : Session.Record)
deriving DecidableEq

structure Outcome where
  /-- The first report of each symptom, with its name. -/
  selection : List NamedSelection
  results : List (Candidate Binary64)
  recommendation : Option Recommendation
  /-- The warnings of the snapshot, and those of the evaluation that are not among them. -/
  warnings : List (Warning Binary64)
  stats : Stats
  revision : Nat
deriving DecidableEq

def firstReports (selection : Selection Binary64) : Selection Binary64 :=
  (flagRepeats (·.symptomId) [] selection).filterMap fun (r, again) =>
    if again then none else some r

/-- Warnings, followed by others that are not among them yet. -/
def mergeWarnings (warnings others : List (Warning Binary64)) : List (Warning Binary64) :=
  others.foldl (fun all w => if all.contains w then all else all ++ [w]) warnings

/-- The outcome of diagnosing a selection on a snapshot. -/
def outcome (config : Config) (snapshot : Snapshot Binary64) (selection : Selection Binary64) :
    Except (EvaluationError Binary64) Outcome := do
  let diagnosis ← evaluate config selection snapshot.rules snapshot.damages
  return {
    selection := (firstReports selection).map fun r => r.named (snapshot.symptom? r.symptomId)
    results := diagnosis.results
    recommendation := Recommendation.ofResults? diagnosis.results
    warnings := mergeWarnings snapshot.warnings diagnosis.warnings
    stats := diagnosis.stats
    revision := snapshot.revision }

/-- What an outcome leaves to record: nothing if nothing was found. -/
def summary? (selection : Selection Binary64) (o : Outcome) : Option (Summary Binary64) :=
  if o.results.isEmpty then none else some (.ofDiagnosis selection o.results)

end Service

/-- A catalog, an evaluation and a recorder. -/
structure Service where
  config : Config := {}
  source : Source
  recorder : Session.Recorder := .memory {}
deriving DecidableEq

namespace Service

/-- Edits the catalog of a service, if it is one in memory. -/
def edit? (s : Service) (role : Role) (e : Edit Binary64) :
    Option (Except Catalog.Error (Option (Record Binary64)) × Service) :=
  match s.source with
  | .store catalog =>
    let (result, catalog) := catalog.edit role e
    some (result, { s with source := .store catalog })
  | _ => none

section

variable {m : Type → Type} [Monad m] [Disk m]

/-- Has what an outcome leaves to record recorded under a stamp. -/
def record (s : Service) (stamp : Session.Stamp) (summary : Option (Summary Binary64)) :
    m (Recording × Service) := do
  match summary with
  | none => return (.skipped, s)
  | some summary =>
    let (result, recorder) ← s.recorder.record stamp summary
    let s := { s with recorder := recorder }
    match result with
    | .ok record => return (.stored record, s)
    | .error e => return (.failed e, s)

def diagnose (s : Service) (stamp : Session.Stamp) (selection : Selection Binary64) :
    m (Except Error (Outcome × Recording) × Service) := do
  let (snapshot, source) ← s.source.snapshot
  let s := { s with source := source }
  match snapshot with
  | .error e => return (.error (.catalog e), s)
  | .ok snapshot =>
    match outcome s.config snapshot selection with
    | .error e => return (.error (.evaluation e), s)
    | .ok outcome =>
      let (recording, s) ← s.record stamp (summary? selection outcome)
      return (.ok (outcome, recording), s)

end

end Service

end CertaintyFactor
