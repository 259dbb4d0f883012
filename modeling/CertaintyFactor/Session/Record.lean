import CertaintyFactor.Document.Diagnosis
import CertaintyFactor.Json.Schema.Read
import CertaintyFactor.Json.Write
import CertaintyFactor.Time.Rfc3339
import CertaintyFactor.Uuid

/-!
# Session records

The record of a finished diagnosis: who it is, when it was made, and its summary.
-/

set_option autoImplicit false

namespace CertaintyFactor

open Json (Schema)

namespace Session

/-- An identifier and a time, ready for the next record. -/
structure Stamp where
  id : Uuid
  recordedAt : Instant
deriving DecidableEq, Repr

structure Record where
  id : Uuid
  recordedAt : Instant
  summary : Summary Binary64
deriving DecidableEq

/-- How an identifier is shown. -/
def idText (id : Uuid) : String :=
  "session:" ++ id.text

def idSchema : Schema :=
  .scalar (.formatted "a formatted UUID string" Uuid.normalize)

def instantSchema : Schema :=
  .scalar (.formatted "an RFC 3339 formatted date and time string" Time.Rfc3339.normalize)

namespace Record

def ofStamp (stamp : Stamp) (summary : Summary Binary64) : Record :=
  ⟨stamp.id, stamp.recordedAt, summary⟩

def schema : Schema :=
  .record "struct SessionRecord" [Json.field "id" idSchema,
    Json.field "recorded_at" instantSchema, Json.field "summary" Summary.schema]

def toJson (r : Record) : Json :=
  .object [("id", .string r.id.text), ("recorded_at", .string (Time.Rfc3339.text r.recordedAt)),
    ("summary", r.summary.toJson)]

def ofJson? : Json → Option Record
  | .object [("id", .string id), ("recorded_at", .string recordedAt), ("summary", summary)] => do
    return ⟨← (Uuid.parse id).toOption, ← (Time.Rfc3339.parse recordedAt).toOption,
      ← Summary.ofJson? summary⟩
  | _ => none

def parse (text : String) : Except Json.Error Record := do
  match ofJson? (← schema.parse text) with
  | some record => return record
  | none => throw .expectedValue

def line (r : Record) : String :=
  r.toJson.compact

end Record

end Session

end CertaintyFactor
