import CertaintyFactor.Document.Catalog
import CertaintyFactor.Explanation
import CertaintyFactor.Level
import CertaintyFactor.Recommendation
import CertaintyFactor.Role
import CertaintyFactor.Summary

/-!
# Diagnosis documents

The documents of everything that goes into a diagnosis and comes out of it, with their schemas.
-/

set_option autoImplicit false

namespace CertaintyFactor

open Json (Schema)

def Json.countField (name : String) : String × Json.Presence × Schema :=
  Json.field name (.scalar .count)

def Json.signedField (name : String) : String × Json.Presence × Schema :=
  Json.field name (.scalar .signed)

def Role.schema : Schema :=
  .choice [Role.expert.name, Role.user.name]

def Answer.schema : Schema :=
  .choice (Answer.all.map Answer.name)

def Level.schema : Schema :=
  .choice (Level.all.map Level.name)

def Tier.schema : Schema :=
  .choice (Tier.all.map Tier.name)

def Advice.schema : Schema :=
  .choice [Advice.repair.name, Advice.inspect.name, Advice.checkOtherSymptoms.name]

def TieBreak.schema : Schema :=
  .choice [TieBreak.damageId.name, TieBreak.ruleOrder.name]

def Config.schema : Schema :=
  .record "struct EngineConfig" [
    ("tie_break", .default (.string TieBreak.damageId.name), TieBreak.schema),
    ("strict_ranges", .default (.bool false), .scalar .flag)]

def Config.toJson (c : Config) : Json :=
  .object [("tie_break", .string c.tieBreak.name), ("strict_ranges", .bool c.strictRanges)]

def Reported.schema : Schema :=
  .record "struct UserSymptomSelection" [Json.textField "symptom_id", Json.floatField "cf_user"]

def Reported.toJson (r : Reported Binary64) : Json :=
  .object [("symptom_id", .string r.symptomId), ("cf_user", .float r.cfUser)]

def NamedSelection.schema : Schema :=
  .record "struct NamedSelection" [Json.textField "symptom_id", Json.textField "name",
    Json.floatField "cf_user", ("answer", .optional, Answer.schema)]

def NamedSelection.toJson (n : NamedSelection) : Json :=
  .object ([("symptom_id", .string n.symptomId), ("name", .string n.name),
    ("cf_user", .float n.cfUser)] ++ Json.optional "answer" (n.answer.map fun a => .string a.name))

def Match.schema : Schema :=
  .record "struct MatchedSymptom" [Json.textField "symptom_id", Json.textField "symptom_name",
    Json.floatField "cf_expert", Json.floatField "cf_user", Json.floatField "cf_combined"]

def Match.toJson (m : Match Binary64) : Json :=
  .object [("symptom_id", .string m.symptomId), ("symptom_name", .string m.symptomName),
    ("cf_expert", .float m.cfExpert), ("cf_user", .float m.cfUser),
    ("cf_combined", .float m.cfCombined)]

def Candidate.schema : Schema :=
  .record "struct DiagnosisResult" [Json.textField "damage_id", Json.textField "rule_id",
    Json.textField "name", Json.textField "description", Json.textField "solution",
    Json.floatField "cf", Json.signedField "percentage",
    Json.field "matching_symptoms" (.list Match.schema), Json.countField "total_symptoms",
    Json.countField "matched_symptoms", Json.countField "rank"]

def Candidate.members (c : Candidate Binary64) : List (String × Json) :=
  [("damage_id", .string c.damageId), ("rule_id", .string c.ruleId), ("name", .string c.name),
    ("description", .string c.description), ("solution", .string c.solution), ("cf", .float c.cf),
    ("percentage", .integer c.percentage),
    ("matching_symptoms", .array (c.matching.map Match.toJson)),
    ("total_symptoms", .count c.total), ("matched_symptoms", .count c.matched),
    ("rank", .count c.rank)]

def Candidate.toJson (c : Candidate Binary64) : Json :=
  .object c.members

def Step.kindSchema : Schema :=
  .choice ["product", "combination"]

def Step.schema : Schema :=
  .record "struct CalculationStep" [Json.countField "step", Json.field "kind" kindSchema,
    Json.textField "description", Json.textField "formula", Json.floatField "result"]

def Step.members (s : Step Binary64) : List (String × Json) :=
  [("step", .count s.number), ("kind", .string s.kind), ("description", .string s.description),
    ("formula", .string s.formula), ("result", .float s.result)]

def Step.toJson (s : Step Binary64) : Json :=
  .object s.members

def Recommendation.schema : Schema :=
  .record "struct Recommendation" [Json.field "tier" Advice.schema, Json.textField "damage_id",
    Json.textField "damage_name", Json.signedField "percentage", Json.textField "message"]

def Recommendation.toJson (r : Recommendation) : Json :=
  .object [("tier", .string r.advice.name), ("damage_id", .string r.damageId),
    ("damage_name", .string r.damageName), ("percentage", .integer r.percentage),
    ("message", .string r.message)]

namespace Warning

/-- The kind of a warning with the given tag and number of fields in words. -/
def variant (tag words : String) (fields : List (String × Json.Scalar)) : Json.Variant where
  tag := tag
  words := "struct variant DataIntegrityWarning::" ++ words
  fields := fields

def schema : Schema :=
  .tagged "internally tagged enum DataIntegrityWarning" "kind" [
    variant "unknown_damage" "UnknownDamage" [("rule_id", .text), ("damage_id", .text)],
    variant "unknown_symptom" "UnknownSymptom" [("rule_id", .text), ("symptom_id", .text)],
    variant "duplicate_code" "DuplicateCode" [("collection", .text), ("code", .text)],
    variant "empty_rule" "EmptyRule" [("rule_id", .text)],
    variant "repeated_rule_symptom" "RepeatedRuleSymptom"
      [("rule_id", .text), ("symptom_id", .text)],
    variant "expert_confidence_out_of_range" "ExpertConfidenceOutOfRange"
      [("rule_id", .text), ("symptom_id", .text), ("cf_expert", .float)]]

def fields : Warning Binary64 → List (String × Json)
  | unknownDamage rule damage => [("rule_id", .string rule), ("damage_id", .string damage)]
  | unknownSymptom rule symptom => [("rule_id", .string rule), ("symptom_id", .string symptom)]
  | duplicateCode collection code => [("collection", .string collection), ("code", .string code)]
  | emptyRule rule => [("rule_id", .string rule)]
  | repeatedSymptom rule symptom => [("rule_id", .string rule), ("symptom_id", .string symptom)]
  | expertOutOfRange rule symptom cf =>
    [("rule_id", .string rule), ("symptom_id", .string symptom), ("cf_expert", .float cf)]

def members (w : Warning Binary64) : List (String × Json) :=
  ("kind", .string w.kind) :: w.fields

def toJson (w : Warning Binary64) : Json :=
  .object w.members

def ofJson? : Json → Option (Warning Binary64)
  | .object [("kind", .string "unknown_damage"), (_, .string rule), (_, .string damage)] =>
    some (unknownDamage rule damage)
  | .object [("kind", .string "unknown_symptom"), (_, .string rule), (_, .string symptom)] =>
    some (unknownSymptom rule symptom)
  | .object [("kind", .string "duplicate_code"), (_, .string collection), (_, .string code)] =>
    some (duplicateCode collection code)
  | .object [("kind", .string "empty_rule"), (_, .string rule)] => some (emptyRule rule)
  | .object [("kind", .string "repeated_rule_symptom"), (_, .string rule), (_, .string symptom)] =>
    some (repeatedSymptom rule symptom)
  | .object [("kind", .string "expert_confidence_out_of_range"), (_, .string rule),
      (_, .string symptom), (_, .float cf)] => some (expertOutOfRange rule symptom cf)
  | _ => none

end Warning

def Stats.schema : Schema :=
  .record "struct EvaluationStats" [Json.countField "rules_total", Json.countField "rules_inert",
    Json.countField "rules_unmatched", Json.countField "rules_dropped"]

def Stats.toJson (s : Stats) : Json :=
  .object [("rules_total", .count s.total), ("rules_inert", .count s.inert),
    ("rules_unmatched", .count s.unmatched), ("rules_dropped", .count s.dropped)]

def Diagnosis.schema : Schema :=
  .record "struct Diagnosis" [Json.field "results" (.list Candidate.schema),
    Json.field "warnings" (.list Warning.schema), Json.field "stats" Stats.schema]

namespace Summary

def Symptom.schema : Schema :=
  .record "struct SymptomConfidence" [Json.textField "symptom_id", Json.floatField "cf"]

def Symptom.toJson (s : Summary.Symptom Binary64) : Json :=
  .object [("symptom_id", .string s.symptomId), ("cf", .float s.cf)]

def Symptom.ofJson? : Json → Option (Summary.Symptom Binary64)
  | .object [("symptom_id", .string id), ("cf", .float cf)] => some ⟨id, cf⟩
  | _ => none

def Ranked.schema : Schema :=
  .record "struct RankedDamage" [Json.textField "damage_id", Json.floatField "cf",
    Json.signedField "percentage", Json.countField "rank"]

def Ranked.toJson (r : Ranked Binary64) : Json :=
  .object [("damage_id", .string r.damageId), ("cf", .float r.cf),
    ("percentage", .integer r.percentage), ("rank", .count r.rank)]

def Ranked.ofJson? : Json → Option (Ranked Binary64)
  | .object [("damage_id", .string id), ("cf", .float cf), ("percentage", .integer percentage),
      ("rank", .integer rank)] => some ⟨id, cf, percentage, rank.toNat⟩
  | _ => none

def schema : Schema :=
  .record "struct SessionSummary" [Json.countField "total_symptoms",
    Json.countField "total_results", Json.field "user_symptoms" (.list Symptom.schema),
    Json.field "results" (.list Ranked.schema)]

def toJson (s : Summary Binary64) : Json :=
  .object [("total_symptoms", .count s.totalSymptoms), ("total_results", .count s.totalResults),
    ("user_symptoms", .array (s.symptoms.map Symptom.toJson)),
    ("results", .array (s.results.map Ranked.toJson))]

def ofJson? : Json → Option (Summary Binary64)
  | .object [("total_symptoms", .integer symptomCount), ("total_results", .integer resultCount),
      ("user_symptoms", symptoms), ("results", results)] => do
    return ⟨symptomCount.toNat, resultCount.toNat, ← Json.listOf? Symptom.ofJson? symptoms,
      ← Json.listOf? Ranked.ofJson? results⟩
  | _ => none

end Summary

end CertaintyFactor
