import CertaintyFactor.Catalog.Format
import CertaintyFactor.Proofs.Document.Summary

/-!
# Catalogs read again

A catalog that was written, in any layout, is read again as it was, except that each expert's
certainty becomes what it is read as again. So what is read is the catalog itself just when all its
certainties are read as they are.
-/

set_option autoImplicit false

namespace CertaintyFactor

open Json (Schema Member)

theorem mapM_eq_some_self_iff {α : Type} {f : α → Option α} {xs : List α} :
    xs.mapM f = some xs ↔ ∀ x ∈ xs, f x = some x := by
  induction xs with
  | nil => simp
  | cons x xs ih =>
    rw [List.mapM_cons, List.forall_mem_cons, ← ih]
    cases f x with
    | none => simp
    | some y => cases xs.mapM f <;> simp

theorem Binary64.reread?_eq_some_iff {x y : Binary64} :
    x.reread? = some y ↔ x.isFinite ∧ x.reread = y := by
  simp [reread?]

/-! ## Catalogs as they are read again -/

def RuleDefinition.Entry.reread? (e : Entry Binary64) : Option (Entry Binary64) :=
  e.cfExpert.reread?.map (⟨e.symptomId, ·⟩)

def RuleDefinition.reread? (r : RuleDefinition Binary64) : Option (RuleDefinition Binary64) :=
  (r.entries.mapM Entry.reread?).map (⟨r.id, r.damageId, ·⟩)

/-- A catalog as it is read again, unless one of its certainties is not finite. -/
def Catalog.reread? (c : Catalog Binary64) : Option (Catalog Binary64) :=
  (c.rules.mapM RuleDefinition.reread?).map (⟨c.symptoms, c.damages, ·⟩)

theorem RuleDefinition.Entry.reread?_eq_some_self_iff {e : Entry Binary64} :
    e.reread? = some e ↔ e.cfExpert.reread? = some e.cfExpert := by
  cases e
  simp [reread?]

theorem RuleDefinition.reread?_eq_some_self_iff {r : RuleDefinition Binary64} :
    r.reread? = some r ↔ ∀ e ∈ r.entries, e.cfExpert.reread? = some e.cfExpert := by
  have hentries : r.reread? = some r ↔ r.entries.mapM Entry.reread? = some r.entries := by
    cases r
    simp [reread?]
  rw [hentries, mapM_eq_some_self_iff]
  simp only [Entry.reread?_eq_some_self_iff]

theorem Catalog.reread?_eq_some_self_iff {c : Catalog Binary64} :
    c.reread? = some c ↔ ∀ rule ∈ c.rules, ∀ e ∈ rule.entries,
      e.cfExpert.reread? = some e.cfExpert := by
  have hrules : c.reread? = some c ↔ c.rules.mapM RuleDefinition.reread? = some c.rules := by
    cases c
    simp [reread?]
  rw [hrules, mapM_eq_some_self_iff]
  simp only [RuleDefinition.reread?_eq_some_self_iff]

/-! ## Reading them -/

namespace Symptom

theorem readsAs_toJson (s : Symptom) (depth : Nat) :
    schema.ReadsAs (depth + 1) s.toJson (some s.toJson) :=
  Schema.readsAs_object (.cons (Member.isOf_text depth "id" s.id)
    (.cons (Member.isOf_text depth "name" s.name)
      (.cons (Member.isOf_textOrEmpty depth "description" s.description) .nil)))
    (by decide) "struct Symptom"

theorem ofJson?_toJson (s : Symptom) : ofJson? s.toJson = some s :=
  rfl

end Symptom

namespace Damage

theorem readsAs_toJson (d : Damage) (depth : Nat) :
    schema.ReadsAs (depth + 1) d.toJson (some d.toJson) :=
  Schema.readsAs_object (.cons (Member.isOf_text depth "id" d.id)
    (.cons (Member.isOf_text depth "name" d.name)
      (.cons (Member.isOf_textOrEmpty depth "description" d.description)
        (.cons (Member.isOf_textOrEmpty depth "solution" d.solution) .nil))))
    (by decide) "struct Damage"

theorem ofJson?_toJson (d : Damage) : ofJson? d.toJson = some d :=
  rfl

end Damage

namespace RuleDefinition

theorem Entry.readsAs_toJson (e : Entry Binary64) (depth : Nat) :
    schema.ReadsAs (depth + 1) e.toJson (e.reread?.map toJson) := by
  have hobject := Schema.readsAs_object (.cons (Member.isOf_text depth "symptom_id" e.symptomId)
    (.cons (Member.isOf_float depth "cf_expert" e.cfExpert) .nil)) (by decide)
    "struct RuleSymptomDefinition"
  have hread : e.reread?.map toJson = ([Member.text "symptom_id" e.symptomId,
      .float "cf_expert" e.cfExpert].mapM Member.read?).map .object := by
    unfold reread?
    cases hcf : e.cfExpert.reread? <;> simp [Member.read?, Member.text, Member.float, hcf, toJson]
  rw [hread]
  exact hobject

theorem Entry.ofJson?_toJson (e : Entry Binary64) : ofJson? e.toJson = some e :=
  rfl

theorem readsAs_toJson (r : RuleDefinition Binary64) (depth : Nat) :
    schema.ReadsAs (depth + 3) r.toJson (r.reread?.map toJson) := by
  have hentries : (Schema.list Entry.schema).ReadsAs (depth + 2)
      (.array (r.entries.map Entry.toJson))
      (((r.entries.mapM Entry.reread?).map (List.map Entry.toJson)).map .array) := by
    rw [← mapM_option_map]
    exact Schema.readsAs_array r.entries (depth + 1) (fun _ _ => ⟨_, rfl⟩)
      fun e _ => e.readsAs_toJson depth
  have hobject := Schema.readsAs_object (.cons (Member.isOf_text _ "id" r.id)
    (.cons (Member.isOf_text _ "damage_id" r.damageId)
      (.cons (Member.isOf_default "symptoms" (.array []) hentries) .nil))) (by decide)
    "struct RuleDefinition"
  have hread : r.reread?.map toJson = ([Member.text "id" r.id, .text "damage_id" r.damageId,
      ⟨"symptoms", .array (r.entries.map Entry.toJson),
        ((r.entries.mapM Entry.reread?).map (List.map Entry.toJson)).map .array⟩].mapM
          Member.read?).map .object := by
    unfold reread?
    cases r.entries.mapM Entry.reread? <;> simp [Member.read?, Member.text, toJson]
  rw [hread]
  exact hobject

theorem ofJson?_toJson (r : RuleDefinition Binary64) : ofJson? r.toJson = some r := by
  have hentries : (r.entries.map Entry.toJson).mapM Entry.ofJson? = some r.entries :=
    mapM_ofJson?_map Entry.ofJson?_toJson r.entries
  simp [toJson, ofJson?, Json.listOf?, hentries]

end RuleDefinition

namespace Catalog

theorem readsAs_toJson (c : Catalog Binary64) (depth : Nat) :
    schema.ReadsAs (depth + 5) c.toJson (c.reread?.map toJson) := by
  have hsymptoms := Schema.readsAs_array_self c.symptoms (depth + 3) (fun _ _ => ⟨_, rfl⟩)
    fun s _ => s.readsAs_toJson (depth + 2)
  have hdamages := Schema.readsAs_array_self c.damages (depth + 3) (fun _ _ => ⟨_, rfl⟩)
    fun d _ => d.readsAs_toJson (depth + 2)
  have hrules : (Schema.list RuleDefinition.schema).ReadsAs (depth + 4)
      (.array (c.rules.map RuleDefinition.toJson))
      (((c.rules.mapM RuleDefinition.reread?).map
        (List.map RuleDefinition.toJson)).map .array) := by
    rw [← mapM_option_map]
    exact Schema.readsAs_array c.rules (depth + 3) (fun _ _ => ⟨_, rfl⟩)
      fun r _ => r.readsAs_toJson depth
  have hobject := Schema.readsAs_object
    (.cons (Member.isOf_default "symptoms" (.array []) hsymptoms)
      (.cons (Member.isOf_default "damages" (.array []) hdamages)
        (.cons (Member.isOf_default "rules" (.array []) hrules) .nil)))
    (by decide) "struct CatalogDocument"
  have hread : c.reread?.map toJson = (([
      ⟨"symptoms", .array (c.symptoms.map Symptom.toJson),
        some (.array (c.symptoms.map Symptom.toJson))⟩,
      ⟨"damages", .array (c.damages.map Damage.toJson),
        some (.array (c.damages.map Damage.toJson))⟩,
      ⟨"rules", .array (c.rules.map RuleDefinition.toJson),
        ((c.rules.mapM RuleDefinition.reread?).map (List.map RuleDefinition.toJson)).map .array⟩] :
          List Member).mapM Member.read?).map .object := by
    unfold reread?
    cases c.rules.mapM RuleDefinition.reread? <;> simp [Member.read?, toJson]
  rw [hread]
  exact hobject

theorem ofJson?_toJson (c : Catalog Binary64) : ofJson? c.toJson = some c := by
  have hsymptoms : (c.symptoms.map Symptom.toJson).mapM Symptom.ofJson? = some c.symptoms :=
    mapM_ofJson?_map Symptom.ofJson?_toJson c.symptoms
  have hdamages : (c.damages.map Damage.toJson).mapM Damage.ofJson? = some c.damages :=
    mapM_ofJson?_map Damage.ofJson?_toJson c.damages
  have hrules : (c.rules.map RuleDefinition.toJson).mapM RuleDefinition.ofJson? = some c.rules :=
    mapM_ofJson?_map RuleDefinition.ofJson?_toJson c.rules
  simp [toJson, ofJson?, Json.listOf?, hsymptoms, hdamages, hrules]

/-! ## Texts of a catalog -/

theorem toOption_parse_json (text : String) :
    (parse .json text).toOption = (schema.parse text).toOption.bind ofJson? := by
  have hparse : (parse .json text).toOption = (parseJson text).toOption := by
    unfold parse
    cases parseJson text <;> rfl
  rw [hparse]
  refine toOption_bind fun document => ?_
  cases ofJson? document <;> rfl

/-- Every text of a catalog's document is read as the catalog is read again. -/
theorem parse_eq_ok_iff_of_isText {c d : Catalog Binary64} {text : String}
    (h : c.toJson.IsText text.toList) : parse .json text = .ok d ↔ c.reread? = some d := by
  have hparse : (parse .json text).toOption = c.reread? := by
    rw [toOption_parse_json, (c.readsAs_toJson 122).toOption_parse h]
    cases c.reread? with
    | none => rfl
    | some again => exact ofJson?_toJson again
  rw [← toOption_eq_some_iff, hparse]

theorem isText_pretty (c : Catalog Binary64) : c.toJson.IsText c.pretty.toList := by
  rw [pretty, Json.pretty, String.toList_ofList]
  exact Json.isText_prettyChars 0 c.toJson

/-- A laid out catalog is read as it was, if all its certainties are finite and read as they are,
and it is laid out as before then. -/
theorem parse_pretty (c : Catalog Binary64) (h : ∀ rule ∈ c.rules, ∀ e ∈ rule.entries,
    e.cfExpert.isFinite ∧ e.cfExpert.reread = e.cfExpert) :
    parse .json c.pretty = .ok c ∧ (parse .json c.pretty).map pretty = .ok c.pretty := by
  have hself : c.reread? = some c :=
    reread?_eq_some_self_iff.2 fun rule hrule e he =>
      Binary64.reread?_eq_some_iff.2 (h rule hrule e he)
  have hok : parse .json c.pretty = .ok c := (parse_eq_ok_iff_of_isText c.isText_pretty).2 hself
  rw [hok]
  exact ⟨rfl, rfl⟩

/-- A catalog with repeated codes, empty lists, and texts full of quotes, backslashes, controls and
line separators. -/
def escapedCatalog : Catalog Binary64 where
  symptoms := [⟨"G\"01\"", "knocks \\ rattles", "first\r\nsecond\u2028third"⟩,
    ⟨"G\"01\"", "\x00\t\x1f\x7f", ""⟩]
  rules := [⟨"R1", "K\u00e9", [⟨"G\"01\"", 0.8⟩, ⟨"G02", -0.25⟩]⟩, ⟨"R1", "", []⟩]

theorem parse_pretty_escaped :
    (∀ rule ∈ escapedCatalog.rules, ∀ e ∈ rule.entries,
      e.cfExpert.isFinite ∧ e.cfExpert.reread = e.cfExpert) ∧
    parse .json escapedCatalog.pretty = .ok escapedCatalog ∧
    (parse .json escapedCatalog.pretty).map pretty = .ok escapedCatalog.pretty := by
  have h : ∀ rule ∈ escapedCatalog.rules, ∀ e ∈ rule.entries,
      e.cfExpert.isFinite ∧ e.cfExpert.reread = e.cfExpert := by
    decide +kernel
  exact ⟨h, parse_pretty escapedCatalog h⟩

end Catalog

end CertaintyFactor
