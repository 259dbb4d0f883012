import CertaintyFactor.Proofs.Catalog.Consistency

/-!
# What a snapshot keeps and what it reports

A snapshot joins the records of a catalog and loses none. It notes every inconsistency once: the
warnings of each kind are, in order, those of the rules or entries that give cause for one
(`Catalog.NotedIn`), and a code that stands in a list several times is noted each time but the
first. An entry is looked at in its place (`EntryPlace`), with the entries before it in the same
rule.
-/

set_option autoImplicit false

namespace CertaintyFactor

/-! ## First records of a code -/

section

variable {α : Type}

/-- What is found of a code in a list: the first item with it, or nothing if there is none. -/
def IsFirst (code : α → String) (items : List α) (key : String) : Option α → Prop
  | some a => code a = key ∧
      ∃ before after, items = before ++ a :: after ∧ ∀ b ∈ before, code b ≠ key
  | none => ∀ a ∈ items, code a ≠ key

theorem isFirst_find? (code : α → String) (items : List α) (key : String) :
    IsFirst code items key (items.find? (code · == key)) := by
  cases hfind : items.find? (code · == key) with
  | none =>
    intro a ha
    simpa using List.find?_eq_none.1 hfind a ha
  | some a =>
    obtain ⟨hcode, before, after, hsplit, hbefore⟩ := List.find?_eq_some_iff_append.1 hfind
    refine ⟨by simpa using hcode, before, after, hsplit, fun b hb => ?_⟩
    simpa using hbefore b hb

/-! ## Repeated codes -/

/-- An item is flagged if its code was seen or stands before it. -/
theorem flagRepeats_eq (code : α → String) (seen : List String) (items : List α) :
    flagRepeats code seen items = items.mapIdx fun i a =>
      (a, seen.contains (code a) || (items.take i).any fun b => code b == code a) := by
  induction items generalizing seen with
  | nil => rfl
  | cons a rest ih =>
    rw [flagRepeats, ih, List.mapIdx_cons]
    congr 1
    · simp
    · -- The code of the head moves from the items before to the codes seen.
      congr 1
      funext i b
      have hcomm : (code b == code a) = (code a == code b) := BEq.comm
      rw [List.contains_cons, hcomm, List.take_succ_cons, List.any_cons, Bool.or_left_comm,
        Bool.or_assoc]

theorem flatMap_flagRepeats {β : Type} (code : α → String) (seen : List String) (items : List α)
    (f : α → List β) : (flagRepeats code seen items).flatMap (fun flagged => f flagged.1) =
      items.flatMap f := by
  induction items generalizing seen with
  | nil => rfl
  | cons a rest ih => rw [flagRepeats, List.flatMap_cons, List.flatMap_cons, ih]

/-- The last items of a code are flagged, all but one of them if the code is new. -/
theorem countP_flagRepeats (code : α → String) (seen : List String) (items : List α)
    (key : String) :
    (flagRepeats code seen items).countP (fun flagged => flagged.2 && code flagged.1 == key) =
      (items.map code).count key - if key ∈ seen then 0 else 1 := by
  induction items generalizing seen with
  | nil => simp [flagRepeats]
  | cons a rest ih =>
    rw [flagRepeats, List.countP_cons, ih, List.map_cons, List.count_cons]
    by_cases hcode : code a = key
    · by_cases hseen : key ∈ seen
      · simp [hcode, hseen]
      · simp [hcode, hseen]
    · have hne : key ≠ code a := fun h => hcode h.symm
      simp [hcode, hne]

end

/-! ## What a catalog lists -/

section

variable {K : Type}

namespace Catalog

/-- The codes of a list. -/
def codes (c : Catalog K) : Collection → List String
  | .symptoms => c.symptoms.map (·.id)
  | .damages => c.damages.map (·.id)
  | .rules => c.rules.map (·.id)

/-- Some symptom of the catalog has the code. -/
def ListsSymptom (c : Catalog K) (code : String) : Prop :=
  ∃ symptom ∈ c.symptoms, symptom.id = code

/-- Some damage of the catalog has the code. -/
def ListsDamage (c : Catalog K) (code : String) : Prop :=
  ∃ damage ∈ c.damages, damage.id = code

instance (c : Catalog K) : DecidablePred c.ListsSymptom :=
  fun _ => inferInstanceAs (Decidable (∃ symptom ∈ c.symptoms, _))

instance (c : Catalog K) : DecidablePred c.ListsDamage :=
  fun _ => inferInstanceAs (Decidable (∃ damage ∈ c.damages, _))

theorem isSome_symptom_withCode?_iff {c : Catalog K} {code : String} :
    (Symptom.withCode? c.symptoms code).isSome ↔ c.ListsSymptom code := by
  simp [Symptom.withCode?, ListsSymptom]

theorem isSome_damage_withCode?_iff {c : Catalog K} {code : String} :
    (Damage.withCode? c.damages code).isSome ↔ c.ListsDamage code := by
  simp [Damage.withCode?, ListsDamage]

end Catalog

end

/-! ## Warnings of one kind -/

section

variable {K : Type}

@[simp]
theorem flatMap_const_nil {α β : Type} (items : List α) :
    items.flatMap (fun _ => ([] : List β)) = [] :=
  List.flatMap_eq_nil_iff.2 fun _ _ => rfl

theorem Collection.singular_inj {a b : Collection} (h : a.singular = b.singular) : a = b := by
  cases a <;> cases b <;> first | rfl | simp [singular] at h

namespace Warning

@[simp]
theorem when_false (warning : Warning K) : when false warning = [] :=
  rfl

theorem mem_when_iff {condition : Bool} {warning w : Warning K} :
    w ∈ when condition warning ↔ condition ∧ w = warning := by
  cases condition <;> simp [when]

theorem filter_when (p : Warning K → Bool) (condition : Bool) (warning : Warning K) :
    (when condition warning).filter p = when (condition && p warning) warning := by
  cases condition
  · rfl
  · cases hp : p warning <;> simp [when, hp]

theorem flatMap_when {α : Type} (condition : α → Bool) (warning : α → Warning K) (items : List α) :
    items.flatMap (fun a => when (condition a) (warning a)) =
      (items.filter condition).map warning := by
  induction items with
  | nil => rfl
  | cons a rest ih =>
    rw [List.flatMap_cons, ih]
    cases ha : condition a <;> simp [when, ha]

end Warning

theorem duplicateWarnings_eq {α : Type} (collection : Collection) (code : α → String)
    (items : List α) : (duplicateWarnings collection code items : List (Warning K)) =
      ((flagRepeats code [] items).filter (·.2)).map fun flagged =>
        .duplicateCode collection.singular (code flagged.1) :=
  Warning.flatMap_when _ _ _

theorem filter_duplicateWarnings {α : Type} {p : Warning K → Bool}
    (hp : ∀ name code, p (.duplicateCode name code) = false) (collection : Collection)
    (code : α → String) (items : List α) :
    (duplicateWarnings collection code items).filter p = [] := by
  rw [duplicateWarnings_eq, List.filter_eq_nil_iff]
  intro warning hwarning
  obtain ⟨flagged, -, rfl⟩ := List.mem_map.1 hwarning
  simp [hp]

/-- A list repeats a code once less often than it has it. -/
theorem count_duplicateWarnings [DecidableEq K] {α : Type} (collection other : Collection)
    (code : α → String) (items : List α) (key : String) :
    (duplicateWarnings collection code items : List (Warning K)).count
        (.duplicateCode other.singular key) =
      if other = collection then (items.map code).count key - 1 else 0 := by
  rw [duplicateWarnings_eq]
  split
  · next hother =>
    have hcount := countP_flagRepeats code [] items key
    rw [if_neg List.not_mem_nil] at hcount
    rw [hother, ← hcount, List.count, List.countP_map, List.countP_filter]
    apply List.countP_congr
    intro flagged hflagged
    simp [and_comm]
  · next hother =>
    rw [List.count_eq_zero]
    intro hmem
    obtain ⟨flagged, -, heq⟩ := List.mem_map.1 hmem
    injection heq with hname
    exact hother (Collection.singular_inj hname).symm

/-! ## Entries in their places -/

/-- A rule entry, with its rule and the entries before it there. -/
structure EntryPlace (K : Type) where
  rule : RuleDefinition K
  before : List (RuleDefinition.Entry K)
  entry : RuleDefinition.Entry K

def RuleDefinition.places (rule : RuleDefinition K) : List (EntryPlace K) :=
  rule.entries.mapIdx fun i entry => ⟨rule, rule.entries.take i, entry⟩

/-- All entries of a catalog, rule by rule. -/
def Catalog.places (c : Catalog K) : List (EntryPlace K) :=
  c.rules.flatMap (·.places)

/-- Each entry of each rule has its place. -/
theorem Catalog.exists_place_iff {c : Catalog K}
    {p : RuleDefinition K → RuleDefinition.Entry K → Prop} :
    (∃ place ∈ c.places, p place.rule place.entry) ↔
      ∃ rule ∈ c.rules, ∃ entry ∈ rule.entries, p rule entry := by
  constructor
  · rintro ⟨place, hplace, h⟩
    obtain ⟨rule, hrule, hplace⟩ := List.mem_flatMap.1 hplace
    obtain ⟨i, hi, rfl⟩ := List.mem_mapIdx.1 hplace
    exact ⟨rule, hrule, rule.entries[i], List.getElem_mem hi, h⟩
  · rintro ⟨rule, hrule, entry, hentry, h⟩
    obtain ⟨i, hi, rfl⟩ := List.getElem_of_mem hentry
    exact ⟨_, List.mem_flatMap.2 ⟨rule, hrule, List.mem_mapIdx.2 ⟨i, hi, rfl⟩⟩, h⟩

namespace EntryPlace

/-- The symptom of the entry stands earlier in the same rule. -/
def IsRepeated (place : EntryPlace K) : Prop :=
  ∃ e ∈ place.before, e.symptomId = place.entry.symptomId

instance : DecidablePred (IsRepeated (K := K)) :=
  fun place => inferInstanceAs (Decidable (∃ e ∈ place.before, _))

end EntryPlace

theorem RuleDefinition.flagRepeats_entries (rule : RuleDefinition K) :
    flagRepeats (·.symptomId) [] rule.entries =
      rule.places.map fun place => (place.entry, decide place.IsRepeated) := by
  rw [flagRepeats_eq, List.mapIdx_eq_iff]
  intro i
  rw [List.getElem?_map, places, List.getElem?_mapIdx]
  cases rule.entries[i]? with
  | none => rfl
  | some entry =>
    have hbefore : (rule.entries.take i).any (fun e => e.symptomId == entry.symptomId) =
        decide (EntryPlace.IsRepeated ⟨rule, rule.entries.take i, entry⟩) := by
      rw [Bool.eq_iff_iff, decide_eq_true_iff]
      simp [EntryPlace.IsRepeated]
    simp [hbefore]

variable [Confidence K]

/-- The warnings about an entry in its place. -/
def EntryPlace.warnings (symptoms : List Symptom) (place : EntryPlace K) : List (Warning K) :=
  place.entry.warnings symptoms place.rule.id (decide place.IsRepeated)

theorem EntryPlace.filter_warnings (p : Warning K → Bool) (symptoms : List Symptom)
    (place : EntryPlace K) :
    (place.warnings symptoms).filter p =
      Warning.when (decide place.IsRepeated &&
        p (.repeatedSymptom place.rule.id place.entry.symptomId))
        (.repeatedSymptom place.rule.id place.entry.symptomId) ++
      Warning.when (!Confidence.validExpert place.entry.cfExpert &&
        p (.expertOutOfRange place.rule.id place.entry.symptomId place.entry.cfExpert))
        (.expertOutOfRange place.rule.id place.entry.symptomId place.entry.cfExpert) ++
      Warning.when ((Symptom.withCode? symptoms place.entry.symptomId).isNone &&
        p (.unknownSymptom place.rule.id place.entry.symptomId))
        (.unknownSymptom place.rule.id place.entry.symptomId) := by
  simp only [warnings, RuleDefinition.Entry.warnings, List.filter_append, Warning.filter_when]

namespace RuleDefinition

/-- The warnings about a rule, but for one on its code. -/
def ownWarnings (symptoms : List Symptom) (damages : List Damage) (rule : RuleDefinition K) :
    List (Warning K) :=
  Warning.when rule.entries.isEmpty (.emptyRule rule.id) ++
    Warning.when (Damage.withCode? damages rule.damageId).isNone
      (.unknownDamage rule.id rule.damageId) ++
    rule.places.flatMap (·.warnings symptoms)

theorem warnings_eq (symptoms : List Symptom) (damages : List Damage) (rule : RuleDefinition K)
    (again : Bool) : rule.warnings symptoms damages again =
      Warning.when again (.duplicateCode Collection.rules.singular rule.id) ++
        rule.ownWarnings symptoms damages := by
  have hentries : (flagRepeats (·.symptomId) [] rule.entries).flatMap
      (fun flagged => flagged.1.warnings symptoms rule.id flagged.2) =
        rule.places.flatMap (·.warnings symptoms) := by
    rw [flagRepeats_entries, List.flatMap_map]
    apply List.flatMap_congr
    intro place hplace
    obtain ⟨i, -, rfl⟩ := List.mem_mapIdx.1 hplace
    rfl
  simp only [warnings, ownWarnings, List.append_assoc]
  rw [← hentries]

theorem filter_ownWarnings (p : Warning K → Bool) (symptoms : List Symptom)
    (damages : List Damage) (rule : RuleDefinition K) :
    (rule.ownWarnings symptoms damages).filter p =
      Warning.when (rule.entries.isEmpty && p (.emptyRule rule.id)) (.emptyRule rule.id) ++
        Warning.when ((Damage.withCode? damages rule.damageId).isNone &&
          p (.unknownDamage rule.id rule.damageId)) (.unknownDamage rule.id rule.damageId) ++
        rule.places.flatMap fun place => (place.warnings symptoms).filter p := by
  simp only [ownWarnings, List.filter_append, Warning.filter_when, List.filter_flatMap]

/-- No rule has a warning on a code for its own. -/
theorem kind_ne_of_mem_ownWarnings {symptoms : List Symptom} {damages : List Damage}
    {rule : RuleDefinition K} {warning : Warning K}
    (h : warning ∈ rule.ownWarnings symptoms damages) : warning.kind ≠ "duplicate_code" := by
  simp only [ownWarnings, EntryPlace.warnings, Entry.warnings, List.mem_append, List.mem_flatMap,
    Warning.mem_when_iff] at h
  rcases h with (⟨-, rfl⟩ | ⟨-, rfl⟩) | ⟨place, -, (⟨-, rfl⟩ | ⟨-, rfl⟩) | ⟨-, rfl⟩⟩ <;>
    simp [Warning.kind]

end RuleDefinition

namespace Catalog

/-- A check that keeps no warning on a code keeps some of what the rules have for their own. -/
theorem filter_warnings {p : Warning K → Bool}
    (hcode : ∀ name code, p (.duplicateCode name code) = false) (c : Catalog K) :
    c.warnings.filter p =
      c.rules.flatMap fun rule => (rule.ownWarnings c.symptoms c.damages).filter p := by
  have hrule : ∀ (rule : RuleDefinition K) again,
      (rule.warnings c.symptoms c.damages again).filter p =
        (rule.ownWarnings c.symptoms c.damages).filter p := by
    intro rule again
    rw [RuleDefinition.warnings_eq, List.filter_append, Warning.filter_when, hcode, Bool.and_false]
    rfl
  rw [warnings, List.filter_append, List.filter_append, filter_duplicateWarnings hcode,
    filter_duplicateWarnings hcode, List.filter_flatMap]
  simp only [hrule]
  exact flatMap_flagRepeats (·.id) [] c.rules fun rule =>
    (rule.ownWarnings c.symptoms c.damages).filter p

/-- A check that keeps no warning on a code or a rule keeps some of those on the entries. -/
theorem filter_entry_warnings {p : Warning K → Bool}
    (hcode : ∀ name code, p (.duplicateCode name code) = false)
    (hempty : ∀ ruleId, p (.emptyRule ruleId) = false)
    (hdamage : ∀ ruleId damageId, p (.unknownDamage ruleId damageId) = false) (c : Catalog K) :
    c.warnings.filter p = c.places.flatMap fun place => (place.warnings c.symptoms).filter p := by
  rw [filter_warnings hcode, places, List.flatMap_assoc]
  apply List.flatMap_congr
  intro rule hrule
  simp [RuleDefinition.filter_ownWarnings, hempty, hdamage]

/-- The warnings on codes are those on the codes of each list. -/
theorem filter_duplicate_warnings (c : Catalog K) :
    c.warnings.filter (·.kind = "duplicate_code") =
      duplicateWarnings .symptoms (·.id) c.symptoms ++
        duplicateWarnings .damages (·.id) c.damages ++
        duplicateWarnings .rules (·.id) c.rules := by
  have hlist : ∀ {α : Type} (collection : Collection) (code : α → String) (items : List α),
      (duplicateWarnings collection code items : List (Warning K)).filter
        (·.kind = "duplicate_code") = duplicateWarnings collection code items := by
    intro α collection code items
    rw [List.filter_eq_self, duplicateWarnings_eq]
    intro warning hwarning
    obtain ⟨flagged, -, rfl⟩ := List.mem_map.1 hwarning
    simp [Warning.kind]
  have hrule : ∀ (rule : RuleDefinition K) again,
      (rule.warnings c.symptoms c.damages again).filter (·.kind = "duplicate_code") =
        Warning.when again (.duplicateCode Collection.rules.singular rule.id) := by
    intro rule again
    have hown : (rule.ownWarnings c.symptoms c.damages).filter (·.kind = "duplicate_code") =
        [] := by
      rw [List.filter_eq_nil_iff]
      intro warning hwarning
      simpa using RuleDefinition.kind_ne_of_mem_ownWarnings hwarning
    rw [RuleDefinition.warnings_eq, List.filter_append, Warning.filter_when, hown]
    simp [Warning.kind]
  rw [warnings, List.filter_append, List.filter_append, hlist, hlist, List.filter_flatMap]
  simp only [hrule]
  rfl

theorem count_duplicate_warnings [DecidableEq K] (c : Catalog K) (collection : Collection)
    (code : String) : c.warnings.count (.duplicateCode collection.singular code) =
      (c.codes collection).count code - 1 := by
  have hkept : c.warnings.count (.duplicateCode collection.singular code) =
      (c.warnings.filter (·.kind = "duplicate_code")).count
        (.duplicateCode collection.singular code) :=
    (List.count_filter (by simp [Warning.kind])).symm
  rw [hkept, filter_duplicate_warnings, List.count_append, List.count_append,
    count_duplicateWarnings, count_duplicateWarnings, count_duplicateWarnings]
  cases collection <;> simp [codes]

end Catalog

end

/-! ## What is noted -/

namespace Catalog

/-- The warnings about a catalog. A list is warned of once less for each code than the code stands
in it; the other warnings of one kind are those of the rules or entries that give cause for them, in
order. -/
structure NotedIn (c : Catalog Binary64) (warnings : List (Warning Binary64)) : Prop where
  duplicates : ∀ collection code, warnings.count (.duplicateCode collection.singular code) =
    (c.codes collection).count code - 1
  lists : ∀ name code, .duplicateCode name code ∈ warnings →
    ∃ collection : Collection, name = collection.singular
  emptyRules : warnings.filter (·.kind = "empty_rule") =
    (c.rules.filter fun rule => rule.entries = []).map fun rule => .emptyRule rule.id
  unknownDamages : warnings.filter (·.kind = "unknown_damage") =
    (c.rules.filter fun rule => ¬ c.ListsDamage rule.damageId).map fun rule =>
      .unknownDamage rule.id rule.damageId
  unknownSymptoms : warnings.filter (·.kind = "unknown_symptom") =
    (c.places.filter fun place => ¬ c.ListsSymptom place.entry.symptomId).map fun place =>
      .unknownSymptom place.rule.id place.entry.symptomId
  repeatedSymptoms : warnings.filter (·.kind = "repeated_rule_symptom") =
    (c.places.filter fun place => place.IsRepeated).map fun place =>
      .repeatedSymptom place.rule.id place.entry.symptomId
  outOfRange : warnings.filter (·.kind = "expert_confidence_out_of_range") =
    (c.places.filter fun place => ¬ place.entry.cfExpert.Within (-1) 1).map fun place =>
      .expertOutOfRange place.rule.id place.entry.symptomId place.entry.cfExpert

theorem notedIn_warnings (c : Catalog Binary64) : c.NotedIn c.warnings where
  duplicates := c.count_duplicate_warnings
  lists := by
    intro name code h
    have hmem : .duplicateCode name code ∈ c.warnings.filter (·.kind = "duplicate_code") :=
      List.mem_filter.2 ⟨h, by simp [Warning.kind]⟩
    simp only [filter_duplicate_warnings, List.mem_append, duplicateWarnings_eq, List.mem_map,
      Warning.duplicateCode.injEq] at hmem
    rcases hmem with (⟨_, -, rfl, -⟩ | ⟨_, -, rfl, -⟩) | ⟨_, -, rfl, -⟩ <;> exact ⟨_, rfl⟩
  emptyRules := by
    rw [filter_warnings (by simp [Warning.kind]), ← Warning.flatMap_when]
    apply List.flatMap_congr
    intro rule hrule
    have hempty : rule.entries.isEmpty = decide (rule.entries = []) := by
      rw [Bool.eq_iff_iff, decide_eq_true_iff, List.isEmpty_iff]
    simp [RuleDefinition.filter_ownWarnings, EntryPlace.filter_warnings, Warning.kind, hempty]
  unknownDamages := by
    rw [filter_warnings (by simp [Warning.kind]), ← Warning.flatMap_when]
    apply List.flatMap_congr
    intro rule hrule
    have hdamage : (Damage.withCode? c.damages rule.damageId).isNone =
        decide (¬ c.ListsDamage rule.damageId) := by
      rw [Bool.eq_iff_iff, decide_eq_true_iff, ← isSome_damage_withCode?_iff]
      simp
    simp [RuleDefinition.filter_ownWarnings, EntryPlace.filter_warnings, Warning.kind, hdamage]
  unknownSymptoms := by
    rw [filter_entry_warnings (by simp [Warning.kind]) (by simp [Warning.kind])
      (by simp [Warning.kind]), ← Warning.flatMap_when]
    apply List.flatMap_congr
    intro place hplace
    have hsymptom : (Symptom.withCode? c.symptoms place.entry.symptomId).isNone =
        decide (¬ c.ListsSymptom place.entry.symptomId) := by
      rw [Bool.eq_iff_iff, decide_eq_true_iff, ← isSome_symptom_withCode?_iff]
      simp
    simp [EntryPlace.filter_warnings, Warning.kind, hsymptom]
  repeatedSymptoms := by
    rw [filter_entry_warnings (by simp [Warning.kind]) (by simp [Warning.kind])
      (by simp [Warning.kind]), ← Warning.flatMap_when]
    apply List.flatMap_congr
    intro place hplace
    simp [EntryPlace.filter_warnings, Warning.kind]
  outOfRange := by
    rw [filter_entry_warnings (by simp [Warning.kind]) (by simp [Warning.kind])
      (by simp [Warning.kind]), ← Warning.flatMap_when]
    apply List.flatMap_congr
    intro place hplace
    have hexpert : Confidence.validExpert place.entry.cfExpert =
        decide (place.entry.cfExpert.Within (-1) 1) := by
      rw [Bool.eq_iff_iff, decide_eq_true_iff]
      exact Binary64.validExpert_iff
    simp [EntryPlace.filter_warnings, Warning.kind, hexpert]

theorem unknownDamage_mem_warnings_iff {c : Catalog Binary64} {ruleId code : String} :
    .unknownDamage ruleId code ∈ c.warnings ↔
      ∃ rule ∈ c.rules, rule.id = ruleId ∧ rule.damageId = code ∧ ¬ c.ListsDamage code := by
  have hkind : .unknownDamage ruleId code ∈ c.warnings ↔
      .unknownDamage ruleId code ∈ c.warnings.filter (·.kind = "unknown_damage") := by
    simp [Warning.kind]
  rw [hkind, c.notedIn_warnings.unknownDamages]
  simp only [List.mem_map, List.mem_filter, decide_eq_true_iff, Warning.unknownDamage.injEq]
  constructor
  · rintro ⟨rule, ⟨hrule, hunlisted⟩, rfl, rfl⟩
    exact ⟨rule, hrule, rfl, rfl, hunlisted⟩
  · rintro ⟨rule, hrule, rfl, rfl, hunlisted⟩
    exact ⟨rule, ⟨hrule, hunlisted⟩, rfl, rfl⟩

theorem unknownSymptom_mem_warnings_iff {c : Catalog Binary64} {ruleId code : String} :
    .unknownSymptom ruleId code ∈ c.warnings ↔
      ∃ rule ∈ c.rules, ∃ entry ∈ rule.entries,
        rule.id = ruleId ∧ entry.symptomId = code ∧ ¬ c.ListsSymptom code := by
  have hkind : .unknownSymptom ruleId code ∈ c.warnings ↔
      .unknownSymptom ruleId code ∈ c.warnings.filter (·.kind = "unknown_symptom") := by
    simp [Warning.kind]
  rw [hkind, c.notedIn_warnings.unknownSymptoms, ← exists_place_iff]
  simp only [List.mem_map, List.mem_filter, decide_eq_true_iff, Warning.unknownSymptom.injEq]
  constructor
  · rintro ⟨place, ⟨hplace, hunlisted⟩, rfl, rfl⟩
    exact ⟨place, hplace, rfl, rfl, hunlisted⟩
  · rintro ⟨place, hplace, rfl, rfl, hunlisted⟩
    exact ⟨place, ⟨hplace, hunlisted⟩, rfl, rfl⟩

theorem expertOutOfRange_mem_warnings_iff {c : Catalog Binary64} {ruleId code : String}
    {cf : Binary64} : .expertOutOfRange ruleId code cf ∈ c.warnings ↔
      ∃ rule ∈ c.rules, ∃ entry ∈ rule.entries,
        rule.id = ruleId ∧ entry = ⟨code, cf⟩ ∧ ¬ cf.Within (-1) 1 := by
  have hkind : .expertOutOfRange ruleId code cf ∈ c.warnings ↔
      .expertOutOfRange ruleId code cf ∈
        c.warnings.filter (·.kind = "expert_confidence_out_of_range") := by
    simp [Warning.kind]
  rw [hkind, c.notedIn_warnings.outOfRange, ← exists_place_iff]
  simp only [List.mem_map, List.mem_filter, decide_eq_true_iff, Warning.expertOutOfRange.injEq]
  constructor
  · rintro ⟨place, ⟨hplace, houtside⟩, rfl, rfl, rfl⟩
    exact ⟨place, hplace, rfl, rfl, houtside⟩
  · rintro ⟨⟨rule, before, entry⟩, hplace, rfl, rfl, houtside⟩
    exact ⟨_, ⟨hplace, houtside⟩, rfl, rfl, rfl⟩

/-! ## What is joined -/

theorem toDefinition_join {K : Type} (symptoms : List Symptom) (damages : List Damage)
    (rule : RuleDefinition K) : (rule.join symptoms damages).toDefinition = rule := by
  have hentries : rule.entries.map (fun entry => (entry.join symptoms).toDefinition) =
      rule.entries := List.map_id' _
  rw [RuleDefinition.join, Rule.toDefinition, List.map_map]
  exact congrArg _ hentries

/-- A catalog is well-formed if no list repeats a code, and each rule has entries, for different
symptoms that are listed, within the range of experts, and leads to a listed damage. -/
theorem wellFormed_iff {c : Catalog Binary64} : c.WellFormed ↔
    (∀ collection, (c.codes collection).Nodup) ∧ ∀ rule ∈ c.rules,
      rule.entries ≠ [] ∧ c.ListsDamage rule.damageId ∧ (rule.entries.map (·.symptomId)).Nodup ∧
      ∀ entry ∈ rule.entries,
        c.ListsSymptom entry.symptomId ∧ entry.cfExpert.Within (-1) 1 := by
  constructor
  · rintro ⟨hsymptoms, hdamages, hids, hrules⟩
    refine ⟨?_, fun rule hrule => ?_⟩
    · intro collection
      cases collection with
      | symptoms => exact hsymptoms
      | damages => exact hdamages
      | rules => exact hids
    · obtain ⟨hne, hdamage, hnodup, hentries⟩ := hrules rule hrule
      refine ⟨hne, isSome_damage_withCode?_iff.1 hdamage, hnodup, fun entry hentry => ?_⟩
      obtain ⟨hsymptom, hexpert⟩ := hentries entry hentry
      exact ⟨isSome_symptom_withCode?_iff.1 hsymptom, Binary64.validExpert_iff.1 hexpert⟩
  · rintro ⟨hcodes, hrules⟩
    refine ⟨hcodes .symptoms, hcodes .damages, hcodes .rules, fun rule hrule => ?_⟩
    obtain ⟨hne, hdamage, hnodup, hentries⟩ := hrules rule hrule
    refine ⟨hne, isSome_damage_withCode?_iff.2 hdamage, hnodup, fun entry hentry => ?_⟩
    obtain ⟨hsymptom, hexpert⟩ := hentries entry hentry
    exact ⟨isSome_symptom_withCode?_iff.2 hsymptom, Binary64.validExpert_iff.2 hexpert⟩

/-- A snapshot keeps the rules of its catalog and joins what it finds by code, which is always the
first record of the code. It is consistent if nothing is wrong with the catalog, and notes each
thing that is. -/
theorem snapshot_joins_and_notes (c : Catalog Binary64) (revision : Nat) :
    let s := c.snapshot revision
    s.rules.map (·.toDefinition) = c.rules ∧
      (∀ code, IsFirst (·.id) c.symptoms code (s.symptom? code) ∧
        IsFirst (·.id) c.damages code (s.damage? code)) ∧
      (∀ rule ∈ s.rules, rule.damage = s.damage? rule.damageId ∧
        ∀ entry ∈ rule.entries, entry.symptom = s.symptom? entry.symptomId) ∧
      (s.isConsistent ↔ (∀ collection, (c.codes collection).Nodup) ∧ ∀ rule ∈ c.rules,
        rule.entries ≠ [] ∧ c.ListsDamage rule.damageId ∧ (rule.entries.map (·.symptomId)).Nodup ∧
        ∀ entry ∈ rule.entries,
          c.ListsSymptom entry.symptomId ∧ entry.cfExpert.Within (-1) 1) ∧
      c.NotedIn s.warnings := by
  intro s
  refine ⟨?_, fun code => ⟨?_, ?_⟩, fun rule hrule => ?_, ?_, c.notedIn_warnings⟩
  · have hrules : s.rules = c.rules.map (·.join c.symptoms c.damages) := rfl
    rw [hrules, List.map_map]
    simp [Function.comp_def, toDefinition_join]
  · exact isFirst_find? _ _ _
  · exact isFirst_find? _ _ _
  · obtain ⟨definition, -, rfl⟩ := List.mem_map.1 hrule
    refine ⟨rfl, fun entry hentry => ?_⟩
    obtain ⟨definitionEntry, -, rfl⟩ := List.mem_map.1 hentry
    rfl
  · exact isConsistent_snapshot_iff.trans wellFormed_iff

/-- An entry that is wrong in every way is noted once for each. -/
example :
    let c : Catalog Binary64 :=
      { rules := [⟨"R1", "K1", [⟨"G01", 1⟩, ⟨"G01", 2⟩]⟩, ⟨"R1", "K1", []⟩] }
    (c.snapshot 0).warnings = [.unknownDamage "R1" "K1", .unknownSymptom "R1" "G01",
      .repeatedSymptom "R1" "G01", .expertOutOfRange "R1" "G01" 2, .unknownSymptom "R1" "G01",
      .duplicateCode "rule" "R1", .emptyRule "R1", .unknownDamage "R1" "K1"] := by decide +kernel

end Catalog

end CertaintyFactor
