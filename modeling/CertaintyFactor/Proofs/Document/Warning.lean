import CertaintyFactor.Proofs.Catalog.Integrity
import CertaintyFactor.Proofs.Document.Catalog
import CertaintyFactor.Proofs.Json.ShortNumber
import CertaintyFactor.Proofs.Json.Tagged

/-!
# Warnings read again

A warning that was written is read again as one of the same kind with the same codes. The certainty
it carries, if any, becomes what it is read as again, and a warning whose certainty is not finite is
not read at all. Certainties out of the range of experts are just those that warnings carry, so a
catalog's warnings survive if every such certainty in it is finite and read as it is
(`Catalog.parse?_warnings`).
-/

set_option autoImplicit false

namespace CertaintyFactor

open Json (IsGlancedAs Kept Schema)

/-- The value that a number is kept as once it was written. -/
def Binary64.kept (x : Binary64) : Json :=
  if x.isFinite then .float x.reread else .null

namespace Json

theorem isGlancedAs_float (x : Binary64) : IsGlancedAs (.float x) x.kept := by
  unfold Binary64.kept
  split
  · next h =>
    refine ⟨?_, nofun, nofun⟩
    rintro _ ⟨⟩
    exact Schema.takes_glance_float h
  · next h =>
    have hnull : scalarText (.float x) = "null".toList :=
      congrArg String.toList (Decimal.Layout.text_json_of_not_isFinite h)
    refine ⟨?_, nofun, nofun⟩
    rintro _ ⟨⟩
    rw [hnull]
    exact Schema.takes_glance_null

namespace Kept

/-- A text that is kept. -/
def text (name text : String) : Kept :=
  ⟨name, .text, .string text, .string text⟩

/-- A certainty that is kept. -/
def float (name : String) (x : Binary64) : Kept :=
  ⟨name, .float, .float x, x.kept⟩

theorem read?_float (name : String) (x : Binary64) :
    (float name x).read? = x.reread?.map fun y => (name, .float y) := by
  unfold read? float Binary64.kept Binary64.reread?
  split <;> rfl

end Kept

end Json

namespace Warning

/-- The warning with its certainty, if it carries one, changed. -/
def mapCertainty (f : Binary64 → Binary64) : Warning Binary64 → Warning Binary64
  | expertOutOfRange rule symptom cf => expertOutOfRange rule symptom (f cf)
  | w => w

/-- The certainty that a warning carries. -/
def certainty? : Warning Binary64 → Option Binary64
  | expertOutOfRange _ _ cf => some cf
  | _ => none

/-- The warning that a text holds. -/
def parse? (text : String) : Option (Warning Binary64) :=
  (schema.parse text).toOption.bind ofJson?

/-- A warning as it is read again, unless its certainty is not finite. -/
def reread? : Warning Binary64 → Option (Warning Binary64)
  | expertOutOfRange rule symptom cf => cf.reread?.map (expertOutOfRange rule symptom)
  | w => some w

theorem reread?_eq_some_iff {w w' : Warning Binary64} : w.reread? = some w' ↔
    (∀ cf ∈ w.certainty?, cf.isFinite) ∧ w' = w.mapCertainty Binary64.reread := by
  cases w with
  | expertOutOfRange rule symptom cf =>
    constructor
    · intro h
      obtain ⟨y, hy, rfl⟩ := Option.map_eq_some_iff.1 h
      obtain ⟨hfinite, rfl⟩ := Binary64.reread?_eq_some_iff.1 hy
      exact ⟨fun _ hcf => Option.some.inj hcf ▸ hfinite, rfl⟩
    · rintro ⟨hfinite, rfl⟩
      exact Option.map_eq_some_iff.2
        ⟨_, Binary64.reread?_eq_some_iff.2 ⟨hfinite cf rfl, rfl⟩, rfl⟩
  | _ => exact ⟨fun h => ⟨nofun, (Option.some.inj h).symm⟩, fun h => congrArg some h.2.symm⟩

theorem mapCertainty_eq_self_iff {f : Binary64 → Binary64} {w : Warning Binary64} :
    w = w.mapCertainty f ↔ ∀ cf ∈ w.certainty?, f cf = cf := by
  cases w with
  | expertOutOfRange rule symptom cf => simp [certainty?, mapCertainty, eq_comm]
  | _ => simp [certainty?, mapCertainty]

/-! ## Reading them -/

/-- The members of a warning, but for its kind. -/
def kept : Warning Binary64 → List Kept
  | unknownDamage rule damage => [.text "rule_id" rule, .text "damage_id" damage]
  | unknownSymptom rule symptom => [.text "rule_id" rule, .text "symptom_id" symptom]
  | duplicateCode collection code => [.text "collection" collection, .text "code" code]
  | emptyRule rule => [.text "rule_id" rule]
  | repeatedSymptom rule symptom => [.text "rule_id" rule, .text "symptom_id" symptom]
  | expertOutOfRange rule symptom cf =>
    [.text "rule_id" rule, .text "symptom_id" symptom, .float "cf_expert" cf]

theorem map_written_kept (w : Warning Binary64) : w.kept.map Kept.written = w.fields := by
  cases w <;> rfl

theorem isGlancedAs_of_mem_kept {w : Warning Binary64} :
    ∀ m ∈ w.kept, IsGlancedAs m.value m.tree := by
  have htext (name text : String) :
      IsGlancedAs (Kept.text name text).value (Kept.text name text).tree :=
    Json.isGlancedAs_string text
  have hfloat (name : String) (x : Binary64) :
      IsGlancedAs (Kept.float name x).value (Kept.float name x).tree :=
    Json.isGlancedAs_float x
  cases w <;> simp [kept, htext, hfloat]

/-- Every warning is of one of the kinds that are read, with its fields. -/
theorem exists_variant (w : Warning Binary64) : ∃ words variants v,
    schema = .tagged words "kind" variants ∧ variants.find? (·.tag == w.kind) = some v ∧
      v.tag = w.kind ∧ v.fields = w.kept.map fun m => (m.name, m.form) := by
  cases w <;> exact ⟨_, _, _, rfl, rfl, rfl, rfl⟩

theorem mapM_read?_kept (w : Warning Binary64) :
    (w.kept.mapM Kept.read?).map (fun read => Json.object (("kind", .string w.kind) :: read)) =
      w.reread?.map toJson := by
  cases w with
  | expertOutOfRange rule symptom cf =>
    simp only [kept, reread?, List.mapM_cons, List.mapM_nil, Kept.read?_float]
    cases cf.reread? <;> rfl
  | _ => rfl

theorem readsAs_toJson (w : Warning Binary64) (depth : Nat) :
    schema.ReadsAs (depth + 1) w.toJson (w.reread?.map toJson) := by
  obtain ⟨words, variants, v, hschema, hfind, hkind, hfields⟩ := w.exists_variant
  have htag : ∀ m ∈ w.kept, m.name ≠ "kind" := by
    cases w <;> simp [kept, Kept.text, Kept.float]
  have hnodup : (w.kept.map Kept.name).Nodup := by
    cases w <;> simp [kept, Kept.text, Kept.float]
  have hreads := Schema.readsAs_tagged (hkind.symm ▸ hfind) hfields isGlancedAs_of_mem_kept htag
    hnodup words depth
  rw [hschema, toJson, members, ← map_written_kept, ← mapM_read?_kept, ← hkind]
  exact hreads

theorem ofJson?_toJson (w : Warning Binary64) : ofJson? w.toJson = some w := by
  cases w <;> rfl

/-- Every text of a warning's document holds the warning as it is read again. -/
theorem parse?_of_isText {w : Warning Binary64} {text : String}
    (h : w.toJson.IsText text.toList) : parse? text = w.reread? := by
  rw [parse?, (w.readsAs_toJson 126).toOption_parse h]
  cases w.reread? with
  | none => rfl
  | some again => exact ofJson?_toJson again

theorem parse?_compact (w : Warning Binary64) : parse? w.toJson.compact = w.reread? := by
  apply parse?_of_isText
  rw [Json.compact, String.toList_ofList]
  exact Json.isText_compactChars w.toJson

theorem parse?_compact_eq_some_iff {w w' : Warning Binary64} :
    parse? w.toJson.compact = some w' ↔
      (∀ cf ∈ w.certainty?, cf.isFinite) ∧ w' = w.mapCertainty Binary64.reread := by
  rw [parse?_compact, reread?_eq_some_iff]

/-- A warning survives if its certainty does. -/
theorem parse?_compact_eq_some_self_iff {w : Warning Binary64} :
    parse? w.toJson.compact = some w ↔ ∀ cf ∈ w.certainty?, cf.isFinite ∧ cf.reread = cf := by
  rw [parse?_compact_eq_some_iff, mapCertainty_eq_self_iff]
  exact ⟨fun h cf hcf => ⟨h.1 cf hcf, h.2 cf hcf⟩,
    fun h => ⟨fun cf hcf => (h cf hcf).1, fun cf hcf => (h cf hcf).2⟩⟩

end Warning

namespace Catalog

/-- The certainties that a catalog's warnings carry are those out of the range of experts. -/
theorem forall_certainty?_warnings_iff {c : Catalog Binary64} {p : Binary64 → Prop} :
    (∀ w ∈ c.warnings, ∀ cf ∈ w.certainty?, p cf) ↔
      ∀ rule ∈ c.rules, ∀ e ∈ rule.entries, ¬ e.cfExpert.Within (-1) 1 → p e.cfExpert := by
  constructor
  · intro h rule hrule e he houtside
    exact h _ (expertOutOfRange_mem_warnings_iff.2 ⟨rule, hrule, e, he, rfl, rfl, houtside⟩) _ rfl
  · intro h w hw cf hcf
    cases w with
    | expertOutOfRange ruleId code value =>
      obtain rfl := Option.some.inj hcf
      obtain ⟨rule, hrule, e, he, -, rfl, houtside⟩ := expertOutOfRange_mem_warnings_iff.1 hw
      exact h rule hrule _ he houtside
    | _ => cases hcf

/-- What becomes of a catalog's warnings on the wire. Each is read again if the certainty it
carries, if any, is finite, and then as the same warning but for that certainty, which is the one
that its decimal is read as. So all of them survive just if every certainty that is out of the range
of experts is finite and read as it is; one that is written with few digits is. -/
theorem parse?_warnings (c : Catalog Binary64) (revision : Nat) :
    (∀ w ∈ (c.snapshot revision).warnings, ∀ again : Warning Binary64,
      Warning.parse? w.toJson.compact = some again ↔
        (∀ cf ∈ w.certainty?, cf.isFinite) ∧ again = w.mapCertainty Binary64.reread) ∧
    ((∀ w ∈ (c.snapshot revision).warnings, Warning.parse? w.toJson.compact = some w) ↔
      ∀ rule ∈ c.rules, ∀ e ∈ rule.entries, ¬ e.cfExpert.Within (-1) 1 →
        e.cfExpert.isFinite ∧ e.cfExpert.reread = e.cfExpert) ∧
    ∀ w ∈ (c.snapshot revision).warnings, (∀ cf ∈ w.certainty?, cf.IsShort) →
      Warning.parse? w.toJson.compact = some w := by
  refine ⟨fun w _ again => Warning.parse?_compact_eq_some_iff, ?_, fun w _ hshort => ?_⟩
  · simp only [Warning.parse?_compact_eq_some_self_iff]
    exact forall_certainty?_warnings_iff
  · rw [Warning.parse?_compact_eq_some_self_iff]
    exact fun cf hcf => ⟨Binary64.isFinite_of_isShort (hshort cf hcf),
      Binary64.reread_of_isShort (hshort cf hcf)⟩

/-- A catalog with a code that stands twice, an empty rule, and three certainties out of range: one
of few digits, one whose decimal is read as its neighbour, and no number. -/
def strayCatalog : Catalog Binary64 where
  symptoms := [⟨"G\"01", "Engine hard to start", ""⟩, ⟨"G\"01", "Engine dies at idle", ""⟩]
  rules := [⟨"R1", "K\u00e9", [⟨"G02", -1.5⟩, ⟨"G03", 1.8474337369372327⟩, ⟨"G04", .nan⟩]⟩,
    ⟨"R2", "", []⟩]

theorem parse?_warnings_stray :
    let repeated : Warning Binary64 := .duplicateCode "symptom" "G\"01"
    let short : Warning Binary64 := .expertOutOfRange "R1" "G02" (-1.5)
    let unsteady : Warning Binary64 := .expertOutOfRange "R1" "G03" 1.8474337369372327
    let missing : Warning Binary64 := .expertOutOfRange "R1" "G04" .nan
    (∀ w ∈ [repeated, short, unsteady, missing], w ∈ (strayCatalog.snapshot 0).warnings) ∧
      Warning.parse? repeated.toJson.compact = some repeated ∧
      (∀ cf ∈ short.certainty?, cf.IsShort) ∧
      Warning.parse? short.toJson.compact = some short ∧
      Warning.parse? unsteady.toJson.compact =
        some (.expertOutOfRange "R1" "G03" 1.847433736937233) ∧
      Warning.parse? missing.toJson.compact = none ∧
      ¬ ∀ w ∈ (strayCatalog.snapshot 0).warnings, Warning.parse? w.toJson.compact = some w := by
  intro repeated short unsteady missing
  obtain ⟨hagain, hall, hshort⟩ := parse?_warnings strayCatalog 0
  have hmem : ∀ w ∈ [repeated, short, unsteady, missing],
      w ∈ (strayCatalog.snapshot 0).warnings := by
    decide +kernel
  obtain ⟨hrepeated, hmem'⟩ := List.forall_mem_cons.1 hmem
  obtain ⟨hshort', hmem'⟩ := List.forall_mem_cons.1 hmem'
  obtain ⟨hunsteady, hmem'⟩ := List.forall_mem_cons.1 hmem'
  have hmissing := List.forall_mem_singleton.1 hmem'
  have hfew : ∀ cf ∈ short.certainty?, cf.IsShort := by decide +kernel
  have hnone : Warning.parse? missing.toJson.compact = none := by
    rw [Option.eq_none_iff_forall_ne_some]
    intro again hread
    exact Bool.false_ne_true (((hagain _ hmissing again).1 hread).1 .nan rfl)
  refine ⟨hmem, (hagain _ hrepeated _).2 ⟨nofun, rfl⟩, hfew, hshort _ hshort' hfew,
    (hagain _ hunsteady _).2 (by decide +kernel), hnone, fun h => ?_⟩
  cases hnone.symm.trans (h missing hmissing)

end Catalog

end CertaintyFactor
