import CertaintyFactor.Catalog.Record
import CertaintyFactor.Json.Schema

/-!
# Catalog documents

The documents of catalog records. For each record there is its schema, the document it is written
as, and the record of a document that is in the schema's normal form.
-/

set_option autoImplicit false

namespace CertaintyFactor

open Json (Schema)

/-- A field that has to be there. -/
def Json.field (name : String) (schema : Schema) : String × Json.Presence × Schema :=
  (name, .required, schema)

/-- A text that is empty when it is missing. -/
def Json.textOrEmpty (name : String) : String × Json.Presence × Schema :=
  (name, .default (.string ""), .scalar .text)

/-- A list that is empty when it is missing. -/
def Json.listOrEmpty (name : String) (item : Schema) : String × Json.Presence × Schema :=
  (name, .default (.array []), .list item)

def Json.textField (name : String) : String × Json.Presence × Schema :=
  Json.field name (.scalar .text)

def Json.floatField (name : String) : String × Json.Presence × Schema :=
  Json.field name (.scalar .float)

/-- The records of a list of documents, none if one of them is no such record. -/
def Json.listOf? {α : Type} (item? : Json → Option α) : Json → Option (List α)
  | .array items => items.mapM item?
  | _ => none

namespace Symptom

def schema : Schema :=
  .record "struct Symptom" [Json.textField "id", Json.textField "name",
    Json.textOrEmpty "description"]

def toJson (s : Symptom) : Json :=
  .object [("id", .string s.id), ("name", .string s.name), ("description", .string s.description)]

def ofJson? : Json → Option Symptom
  | .object [("id", .string id), ("name", .string name), ("description", .string description)] =>
    some ⟨id, name, description⟩
  | _ => none

end Symptom

namespace Damage

def schema : Schema :=
  .record "struct Damage" [Json.textField "id", Json.textField "name",
    Json.textOrEmpty "description", Json.textOrEmpty "solution"]

def toJson (d : Damage) : Json :=
  .object [("id", .string d.id), ("name", .string d.name), ("description", .string d.description),
    ("solution", .string d.solution)]

def ofJson? : Json → Option Damage
  | .object [("id", .string id), ("name", .string name), ("description", .string description),
      ("solution", .string solution)] => some ⟨id, name, description, solution⟩
  | _ => none

end Damage

namespace RuleDefinition

def Entry.schema : Schema :=
  .record "struct RuleSymptomDefinition" [Json.textField "symptom_id", Json.floatField "cf_expert"]

def Entry.toJson (e : Entry Binary64) : Json :=
  .object [("symptom_id", .string e.symptomId), ("cf_expert", .float e.cfExpert)]

def Entry.ofJson? : Json → Option (Entry Binary64)
  | .object [("symptom_id", .string symptom), ("cf_expert", .float cf)] => some ⟨symptom, cf⟩
  | _ => none

def schema : Schema :=
  .record "struct RuleDefinition" [Json.textField "id", Json.textField "damage_id",
    Json.listOrEmpty "symptoms" Entry.schema]

def toJson (r : RuleDefinition Binary64) : Json :=
  .object [("id", .string r.id), ("damage_id", .string r.damageId),
    ("symptoms", .array (r.entries.map Entry.toJson))]

def ofJson? : Json → Option (RuleDefinition Binary64)
  | .object [("id", .string id), ("damage_id", .string damage), ("symptoms", entries)] => do
    return ⟨id, damage, ← Json.listOf? Entry.ofJson? entries⟩
  | _ => none

end RuleDefinition

namespace Rule

def Entry.schema : Schema :=
  .record "struct RuleSymptom" [Json.textField "symptom_id", Json.floatField "cf_expert",
    ("symptom", .optional, Symptom.schema)]

def Entry.toJson (e : Entry Binary64) : Json :=
  .object ([("symptom_id", .string e.symptomId), ("cf_expert", .float e.cfExpert)] ++
    Json.optional "symptom" (e.symptom.map Symptom.toJson))

def schema : Schema :=
  .record "struct Rule" [Json.textField "id", Json.textField "damage_id",
    ("damage", .optional, Damage.schema), Json.listOrEmpty "symptoms" Entry.schema]

def toJson (r : Rule Binary64) : Json :=
  .object ([("id", .string r.id), ("damage_id", .string r.damageId)] ++
    Json.optional "damage" (r.damage.map Damage.toJson) ++
    [("symptoms", .array (r.entries.map Entry.toJson))])

end Rule

namespace Catalog

def schema : Schema :=
  .record "struct CatalogDocument" [Json.listOrEmpty "symptoms" Symptom.schema,
    Json.listOrEmpty "damages" Damage.schema, Json.listOrEmpty "rules" RuleDefinition.schema]

def toJson (c : Catalog Binary64) : Json :=
  .object [("symptoms", .array (c.symptoms.map Symptom.toJson)),
    ("damages", .array (c.damages.map Damage.toJson)),
    ("rules", .array (c.rules.map RuleDefinition.toJson))]

def ofJson? : Json → Option (Catalog Binary64)
  | .object [("symptoms", symptoms), ("damages", damages), ("rules", rules)] => do
    return ⟨← Json.listOf? Symptom.ofJson? symptoms, ← Json.listOf? Damage.ofJson? damages,
      ← Json.listOf? RuleDefinition.ofJson? rules⟩
  | _ => none

end Catalog

end CertaintyFactor
