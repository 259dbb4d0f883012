import CertaintyFactor.Catalog.Snapshot
import Mathlib.Data.List.Nodup

/-!
# Consistent catalogs

A snapshot is consistent when nothing was noted while its catalog was joined. `Catalog.WellFormed`
says which catalogs these are without a word about warnings: codes stand in their lists once, every
rule has entries, names each symptom once and refers to listed records only, and experts keep to
their range.
-/

set_option autoImplicit false

namespace CertaintyFactor

/-! ## Repeated codes -/

section

variable {α : Type} {code : α → String}

/-- No item is flagged if and only if the codes differ from each other and from those seen. -/
theorem forall_flagRepeats_iff {seen : List String} {items : List α} :
    (∀ flagged ∈ flagRepeats code seen items, flagged.2 = false) ↔
      (items.map code).Nodup ∧ ∀ a ∈ items, code a ∉ seen := by
  induction items generalizing seen with
  | nil => simp [flagRepeats]
  | cons a rest ih =>
    rw [flagRepeats, List.forall_mem_cons, ih, List.map_cons, List.nodup_cons,
      List.forall_mem_cons]
    constructor
    · rintro ⟨hseen, hnodup, hrest⟩
      refine ⟨⟨fun hmem => ?_, hnodup⟩, by simpa using hseen, fun b hb hmem => ?_⟩
      · obtain ⟨b, hb, hcode⟩ := List.mem_map.1 hmem
        exact hrest b hb (hcode ▸ List.mem_cons_self)
      · exact hrest b hb (List.mem_cons_of_mem _ hmem)
    · rintro ⟨⟨hfresh, hnodup⟩, hseen, hrest⟩
      refine ⟨by simpa using hseen, hnodup, fun b hb hmem => ?_⟩
      rcases List.mem_cons.1 hmem with hcode | hmem
      · exact hfresh (hcode ▸ List.mem_map_of_mem hb)
      · exact hrest b hb hmem

theorem mem_flagRepeats {seen : List String} {items : List α} {flagged : α × Bool}
    (h : flagged ∈ flagRepeats code seen items) : flagged.1 ∈ items := by
  induction items generalizing seen with
  | nil => cases h
  | cons a rest ih =>
    rcases List.mem_cons.1 h with rfl | h
    · exact List.mem_cons_self
    · exact List.mem_cons_of_mem a (ih h)

theorem exists_mem_flagRepeats (code : α → String) (seen : List String) {items : List α} {a : α}
    (h : a ∈ items) : ∃ again, (a, again) ∈ flagRepeats code seen items := by
  induction items generalizing seen with
  | nil => cases h
  | cons b rest ih =>
    rcases List.mem_cons.1 h with rfl | h
    · exact ⟨_, List.mem_cons_self⟩
    · obtain ⟨again, hagain⟩ := ih (code b :: seen) h
      exact ⟨again, List.mem_cons_of_mem _ hagain⟩

/-- A check of the flagged items passes everywhere if and only if no code is repeated and it passes
for each item that is not. -/
theorem forall_flagRepeats_and_iff {items : List α} {p : α → Prop} :
    (∀ flagged ∈ flagRepeats code [] items, flagged.2 = false ∧ p flagged.1) ↔
      (items.map code).Nodup ∧ ∀ a ∈ items, p a := by
  constructor
  · intro h
    refine ⟨(forall_flagRepeats_iff.1 fun flagged hflagged => (h flagged hflagged).1).1, ?_⟩
    intro a ha
    obtain ⟨again, hagain⟩ := exists_mem_flagRepeats code [] ha
    exact (h _ hagain).2
  · rintro ⟨hnodup, hall⟩ flagged hflagged
    have hfresh := forall_flagRepeats_iff.2 ⟨hnodup, fun a _ => List.not_mem_nil⟩
    exact ⟨hfresh flagged hflagged, hall _ (mem_flagRepeats hflagged)⟩

end

section

variable {K : Type}

theorem Warning.when_eq_nil_iff {condition : Bool} {warning : Warning K} :
    Warning.when condition warning = [] ↔ condition = false := by
  cases condition <;> simp [Warning.when]

theorem duplicateWarnings_eq_nil_iff {α : Type} {collection : Collection} {code : α → String}
    {items : List α} :
    (duplicateWarnings collection code items : List (Warning K)) = [] ↔
      (items.map code).Nodup := by
  rw [duplicateWarnings, List.flatMap_eq_nil_iff]
  simp only [Warning.when_eq_nil_iff]
  rw [forall_flagRepeats_iff]
  simp

end

/-! ## What consistency promises -/

section

variable {K : Type} [Confidence K]

/-- An entry names a listed symptom and keeps to the range of experts. -/
structure RuleDefinition.Entry.WellFormed (symptoms : List Symptom)
    (entry : RuleDefinition.Entry K) : Prop where
  symptom : (Symptom.withCode? symptoms entry.symptomId).isSome
  cfExpert : Confidence.validExpert entry.cfExpert

/-- A rule has entries, for different symptoms, and leads to a listed damage. -/
structure RuleDefinition.WellFormed (symptoms : List Symptom) (damages : List Damage)
    (rule : RuleDefinition K) : Prop where
  entries_ne : rule.entries ≠ []
  damage : (Damage.withCode? damages rule.damageId).isSome
  symptoms_nodup : (rule.entries.map (·.symptomId)).Nodup
  entries : ∀ entry ∈ rule.entries, entry.WellFormed symptoms

/-- Codes stand in their lists once, and all rules are well-formed. -/
structure Catalog.WellFormed (c : Catalog K) : Prop where
  symptoms_nodup : (c.symptoms.map (·.id)).Nodup
  damages_nodup : (c.damages.map (·.id)).Nodup
  rules_nodup : (c.rules.map (·.id)).Nodup
  rules : ∀ rule ∈ c.rules, rule.WellFormed c.symptoms c.damages

theorem RuleDefinition.Entry.warnings_eq_nil_iff {symptoms : List Symptom} {ruleId : String}
    {entry : RuleDefinition.Entry K} {again : Bool} :
    entry.warnings symptoms ruleId again = [] ↔ again = false ∧ entry.WellFormed symptoms := by
  simp only [warnings, List.append_eq_nil_iff, Warning.when_eq_nil_iff, Bool.not_eq_false',
    Option.isNone_eq_false_iff]
  constructor
  · rintro ⟨⟨hagain, hexpert⟩, hsymptom⟩
    exact ⟨hagain, hsymptom, hexpert⟩
  · rintro ⟨hagain, hsymptom, hexpert⟩
    exact ⟨⟨hagain, hexpert⟩, hsymptom⟩

theorem RuleDefinition.warnings_eq_nil_iff {symptoms : List Symptom} {damages : List Damage}
    {rule : RuleDefinition K} {again : Bool} :
    rule.warnings symptoms damages again = [] ↔
      again = false ∧ rule.WellFormed symptoms damages := by
  simp only [warnings, List.append_eq_nil_iff, Warning.when_eq_nil_iff, List.flatMap_eq_nil_iff,
    Entry.warnings_eq_nil_iff, List.isEmpty_eq_false_iff, Option.isNone_eq_false_iff]
  rw [forall_flagRepeats_and_iff]
  constructor
  · rintro ⟨⟨⟨hagain, hentries⟩, hdamage⟩, hnodup, hall⟩
    exact ⟨hagain, hentries, hdamage, hnodup, hall⟩
  · rintro ⟨hagain, hentries, hdamage, hnodup, hall⟩
    exact ⟨⟨⟨hagain, hentries⟩, hdamage⟩, hnodup, hall⟩

/-- The consistent snapshots are those of well-formed catalogs. -/
theorem Catalog.isConsistent_snapshot_iff {c : Catalog K} {revision : Nat} :
    (c.snapshot revision).isConsistent ↔ c.WellFormed := by
  rw [Snapshot.isConsistent, List.isEmpty_iff]
  show c.warnings = [] ↔ _
  simp only [warnings, List.append_eq_nil_iff, List.flatMap_eq_nil_iff,
    duplicateWarnings_eq_nil_iff, RuleDefinition.warnings_eq_nil_iff]
  rw [forall_flagRepeats_and_iff]
  constructor
  · rintro ⟨⟨hsymptoms, hdamages⟩, hids, hrules⟩
    exact ⟨hsymptoms, hdamages, hids, hrules⟩
  · rintro ⟨hsymptoms, hdamages, hids, hrules⟩
    exact ⟨⟨hsymptoms, hdamages⟩, hids, hrules⟩

end

end CertaintyFactor
