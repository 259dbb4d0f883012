import CertaintyFactor.Cli.Report
import CertaintyFactor.Cli.Request
import CertaintyFactor.Settings

/-!
# Showing recorded sessions

The command that counts the sessions of a store and lists the latest of them, the last one first.
-/

set_option autoImplicit false

namespace CertaintyFactor.Cli.SessionsRequest

/-- The latest records, at most as many as asked for, the last one first. -/
def latest (r : SessionsRequest) (records : List Session.Record) : List Session.Record :=
  records.reverse.take r.limit

def topText (s : Summary Binary64) : String :=
  match s.top? with
  | some top => s!"{top.damageId} (" ++ Decimal.integerText top.percentage ++ "%)"
  | none => "-"

def row (record : Session.Record) : List String :=
  [Session.idText record.id, Time.Rfc3339.tableText record.recordedAt,
    Decimal.integerText record.summary.totalSymptoms,
    Decimal.integerText record.summary.totalResults, topText record.summary]

/-- What is shown of a store with the given number of records, and of those that are to be listed.
-/
def report (styles : Bool) (r : SessionsRequest) (store : Session.Store)
    (listed : List Session.Record) : Report :=
  match r.format with
  | .json =>
    .json (.object ([("count", .count store.count)] ++
      Json.optional "sessions"
        (if r.list then some (.array (listed.map Session.Record.toJson)) else none)))
  | .table =>
    .line s!"{store.count} recorded session(s) in {store.path}" ++
      if r.list then
        .table styles ["session", "recorded", "symptoms", "results", "top"] (listed.map row)
      else {}

/-- Shows the store named on the command line, or else in the settings. -/
def run {m : Type → Type} [Monad m] [Disk m] (styles : Bool) (settings : Settings)
    (r : SessionsRequest) : m Ending := do
  match r.store <|> settings.store with
  | none => return .failed .noStore
  | some path =>
    match ← Session.Store.openAt path with
    | .error e => return .failed (.session e)
    | .ok store =>
      if r.list then
        match ← store.readAll with
        | .error e => return .failed (.session e)
        | .ok records => return { report := r.report styles store (r.latest records) }
      else return { report := r.report styles store [] }

end CertaintyFactor.Cli.SessionsRequest
