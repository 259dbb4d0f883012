import CertaintyFactor.Proofs.Catalog.LastStored
import CertaintyFactor.Proofs.Catalog.Run
import CertaintyFactor.Proofs.Evaluation.Dangling

/-!
# References along a run

A catalog is linked if its rules refer to listed records only. Every edit but one keeps it so: who
takes a record out takes along what refers to it, all of it, also when the code stood in its list
twice; only a rule that is put in may name a code that is not listed. Where no rule is put in, the
rules are those of the start less the entries of symptoms taken out since (`Catalog.Remains`), so
that a catalog that was consistent has nothing wrong with it later but rules that lost all entries.
-/

set_option autoImplicit false

namespace CertaintyFactor

/-- A part of a list in its order, told by its codes, if the list repeats none. -/
theorem eq_filter_of_sublist {α : Type} {code : α → String} {kept items : List α}
    (hkept : kept.Sublist items) (hnodup : (items.map code).Nodup) :
    kept = items.filter fun a => code a ∈ kept.map code := by
  induction hkept with
  | slnil => rfl
  | @cons kept items a hkept ih =>
    rw [List.map_cons, List.nodup_cons] at hnodup
    have ha : code a ∉ kept.map code := fun hmem => hnodup.1 ((hkept.map code).subset hmem)
    rw [List.filter_cons_of_neg (by simpa using ha)]
    exact ih hnodup.2
  | @cons_cons kept items a hkept ih =>
    rw [List.map_cons, List.nodup_cons] at hnodup
    rw [List.filter_cons_of_pos (by simp)]
    congr 1
    refine (ih hnodup.2).trans (List.filter_congr fun b hb => ?_)
    have hne : code b ≠ code a := fun h => hnodup.1 (h ▸ List.mem_map_of_mem hb)
    simp [hne]

/-! ## Linked catalogs -/

section

variable {K : Type}

/-- All that a rule refers to is listed. -/
structure RuleDefinition.IsLinked (c : Catalog K) (rule : RuleDefinition K) : Prop where
  damage : c.ListsDamage rule.damageId
  symptoms : ∀ entry ∈ rule.entries, c.ListsSymptom entry.symptomId

/-- All that the rules of a catalog refer to is listed. -/
def Catalog.IsLinked (c : Catalog K) : Prop :=
  ∀ rule ∈ c.rules, rule.IsLinked c

/-- A rule less the entries that name some symptoms. -/
def RuleDefinition.less (codes : List String) (rule : RuleDefinition K) : RuleDefinition K :=
  { rule with entries := rule.entries.filter (·.symptomId ∉ codes) }

namespace RuleDefinition

theorem less_nil (rule : RuleDefinition K) : rule.less [] = rule := by
  simp [less]

theorem less_append (codes later : List String) (rule : RuleDefinition K) :
    rule.less (codes ++ later) = (rule.less codes).less later :=
  Record.rule.inj (Record.lessEntries_append codes later (.rule rule))

theorem entries_less_eq_nil_iff {codes : List String} {rule : RuleDefinition K} :
    (rule.less codes).entries = [] ↔ ∀ entry ∈ rule.entries, entry.symptomId ∈ codes := by
  simp [less, List.filter_eq_nil_iff]

end RuleDefinition

namespace Catalog

variable {c next : Catalog K}

/-- What is listed under a code stays so in an edit, unless it is what the edit takes out. -/
theorem mem_codes_erase? {collection list : Collection} {code key : String} {found : Record K}
    (h : c.erase? collection code = some (found, next)) (hkey : key ∈ c.codes list)
    (hlist : list ≠ .rules) (hne : (list, key) ≠ (collection, code)) : key ∈ next.codes list := by
  obtain ⟨htake, hothers⟩ := records_erase? h
  rw [← map_code_records] at hkey ⊢
  by_cases hsame : list = collection
  · subst hsame
    exact mem_map_of_takeOut? htake hkey fun hcode => hne (hcode ▸ rfl)
  · -- Nothing goes along with a record but rules and parts of them.
    rw [hothers list hsame]
    obtain ⟨record, hrecord, rfl⟩ := List.mem_map.1 hkey
    refine List.mem_map.2 ⟨record, List.mem_filterMap.2 ⟨record, hrecord, ?_⟩, rfl⟩
    have hrule : record.collection ≠ .rules := collection_of_mem_records hrecord ▸ hlist
    cases record with
    | rule r => exact absurd rfl hrule
    | symptom s => cases collection <;> rfl
    | damage d => cases collection <;> rfl

theorem mem_codes_insert {list : Collection} {key : String} (h : key ∈ c.codes list)
    (record : Record K) : key ∈ (c.insert record).codes list := by
  rw [← map_code_records] at h ⊢
  by_cases hsame : list = record.collection
  · subst hsame
    rw [records_insert]
    exact mem_map_upsert h record
  · rwa [records_insert_of_ne c hsame]

theorem listsSymptom_iff {code : String} : c.ListsSymptom code ↔ code ∈ c.codes .symptoms :=
  List.mem_map.symm

theorem listsDamage_iff {code : String} : c.ListsDamage code ↔ code ∈ c.codes .damages :=
  List.mem_map.symm

/-- The rules that stay when a record is taken out, in their order, less the entries that go along.
None of them leads to a damage that was taken out. -/
theorem rules_erase? {collection : Collection} {code : String} {found : Record K}
    (h : c.erase? collection code = some (found, next)) :
    ∃ kept : List (RuleDefinition K), kept.Sublist c.rules ∧
      next.rules = kept.map (·.less (takenSymptoms [(.remove collection code : Edit K)])) ∧
      ∀ rule ∈ kept, (.damages, rule.damageId) ≠ (collection, code) := by
  have hless : ∀ rules : List (RuleDefinition K), rules = rules.map (·.less []) := by
    intro rules
    simp [RuleDefinition.less_nil]
  cases collection with
  | symptoms =>
    obtain ⟨⟨symptom, rest⟩, -, hpair⟩ := Option.map_eq_some_iff.1 h
    cases hpair
    refine ⟨c.rules, .refl _, ?_, fun _ _ => by simp⟩
    simp [forgetSymptom, RuleDefinition.less, takenSymptoms]
  | damages =>
    obtain ⟨⟨damage, rest⟩, -, hpair⟩ := Option.map_eq_some_iff.1 h
    cases hpair
    refine ⟨_, List.filter_sublist, hless _, fun rule hrule => ?_⟩
    simpa using (List.mem_filter.1 hrule).2
  | rules =>
    obtain ⟨⟨rule, rest⟩, htake, hpair⟩ := Option.map_eq_some_iff.1 h
    cases hpair
    exact ⟨rest, sublist_of_takeOut? htake, hless rest, fun _ _ => by simp⟩

end Catalog

theorem RuleDefinition.IsLinked.mono {c next : Catalog K} {rule : RuleDefinition K}
    (h : rule.IsLinked c)
    (hkeeps : ∀ list, list ≠ .rules → ∀ code ∈ c.codes list, code ∈ next.codes list) :
    rule.IsLinked next where
  damage :=
    Catalog.listsDamage_iff.2 (hkeeps .damages nofun _ (Catalog.listsDamage_iff.1 h.damage))
  symptoms entry hentry :=
    Catalog.listsSymptom_iff.2
      (hkeeps .symptoms nofun _ (Catalog.listsSymptom_iff.1 (h.symptoms entry hentry)))

namespace Catalog

variable {c next : Catalog K}

/-- An edit that puts a rule in puts in one that is linked. -/
def Links (c : Catalog K) : Edit K → Prop
  | .upsert (.rule rule) => rule.IsLinked c
  | _ => True

theorem IsLinked.insert (h : c.IsLinked) {record : Record K} (hlinks : c.Links (.upsert record)) :
    (c.insert record).IsLinked := by
  have hkeeps : ∀ rule : RuleDefinition K, rule.IsLinked c → rule.IsLinked (c.insert record) :=
    fun rule hrule => hrule.mono fun _ _ _ hcode => mem_codes_insert hcode record
  intro rule hrule
  cases record with
  | symptom symptom => exact hkeeps rule (h rule hrule)
  | damage damage => exact hkeeps rule (h rule hrule)
  | rule new =>
    rcases mem_of_mem_upsert hrule with rfl | hold
    · exact hkeeps rule hlinks
    · exact hkeeps rule (h rule hold)

theorem IsLinked.erase? (h : c.IsLinked) {collection : Collection} {code : String}
    {found : Record K} (herase : c.erase? collection code = some (found, next)) :
    next.IsLinked := by
  obtain ⟨kept, hkept, hrules, hdamages⟩ := rules_erase? herase
  intro rule' hrule'
  rw [hrules] at hrule'
  obtain ⟨rule, hrule, rfl⟩ := List.mem_map.1 hrule'
  have hlinked := h rule (hkept.subset hrule)
  constructor
  · exact listsDamage_iff.2 (mem_codes_erase? herase (listsDamage_iff.1 hlinked.damage) nofun
      (hdamages rule hrule))
  · intro entry hentry
    obtain ⟨hmem, hstays⟩ := List.mem_filter.1 hentry
    refine listsSymptom_iff.2 (mem_codes_erase? herase
      (listsSymptom_iff.1 (hlinked.symptoms entry hmem)) nofun fun htaken => ?_)
    obtain ⟨rfl, rfl⟩ := Prod.mk.inj htaken
    simp [takenSymptoms] at hstays

/-- An edit that is done keeps a catalog linked, unless it puts in a rule that is not. -/
theorem IsLinked.edit (h : c.IsLinked) {role : Role} {e : Edit K} {removed : Option (Record K)}
    (hlinks : c.Links e) (hedit : c.edit role e = .ok (removed, next)) : next.IsLinked := by
  rcases of_edit_eq_ok hedit with ⟨record, rfl, -, rfl⟩ | ⟨_, _, _, rfl, -, herase⟩
  · exact h.insert hlinks
  · exact h.erase? herase

end Catalog

/-! ## What remains of the rules -/

/-- The edit puts a rule in. -/
def Edit.putsRule : Edit K → Bool
  | upsert (.rule _) => true
  | _ => false

namespace Catalog

/-- No code stands in a list twice, and the rules are some of those of a catalog, in their order,
less the entries that the edits done since took along. -/
structure Remains (c : Catalog K) (done : List (Edit K)) (now : Catalog K) : Prop where
  codes : now.HasUniqueCodes
  rules : ∃ kept : List (RuleDefinition K), kept.Sublist c.rules ∧
    now.rules = kept.map (·.less (takenSymptoms done))

namespace Remains

variable {c now next : Catalog K} {done : List (Edit K)}

theorem start (h : c.HasUniqueCodes) : c.Remains [] c :=
  ⟨h, c.rules, .refl _, by simp [takenSymptoms, RuleDefinition.less_nil]⟩

theorem edit (h : c.Remains done now) {role : Role} {e : Edit K} {removed : Option (Record K)}
    (he : e.putsRule = false) (hedit : now.edit role e = .ok (removed, next)) :
    c.Remains (done ++ [e]) next := by
  refine ⟨(h.codes.updates hedit).hasUniqueCodes h.codes, ?_⟩
  obtain ⟨kept, hkept, hrules⟩ := h.rules
  rw [takenSymptoms_append]
  rcases of_edit_eq_ok hedit with ⟨record, rfl, -, rfl⟩ | ⟨collection, code, _, rfl, -, herase⟩
  · refine ⟨kept, hkept, ?_⟩
    rw [show takenSymptoms [Edit.upsert record] = [] from rfl, List.append_nil, ← hrules]
    cases record with
    | symptom symptom => rfl
    | damage damage => rfl
    | rule rule => cases he
  · obtain ⟨left, hleft, hnext, -⟩ := rules_erase? herase
    rw [hrules] at hleft
    obtain ⟨stays, hstays, rfl⟩ := List.sublist_map_iff.1 hleft
    refine ⟨stays, hstays.trans hkept, ?_⟩
    rw [hnext, List.map_map]
    exact List.map_congr_left fun rule _ => (rule.less_append _ _).symm

end Remains

end Catalog

end

/-! ## What is wrong with the rules that remain -/

section

variable {K : Type} [Confidence K]

/-- Nothing is wrong with a rule, unless it has no entries. -/
structure RuleDefinition.IsTidy (symptoms : List Symptom) (damages : List Damage)
    (rule : RuleDefinition K) : Prop where
  damage : (Damage.withCode? damages rule.damageId).isSome
  symptoms_nodup : (rule.entries.map (·.symptomId)).Nodup
  entries : ∀ entry ∈ rule.entries, entry.WellFormed symptoms

theorem RuleDefinition.IsTidy.warnings_eq {symptoms : List Symptom} {damages : List Damage}
    {rule : RuleDefinition K} (h : rule.IsTidy symptoms damages) :
    rule.warnings symptoms damages false =
      Warning.when rule.entries.isEmpty (.emptyRule rule.id) := by
  have hdamage : (Damage.withCode? damages rule.damageId).isNone = false :=
    Option.isNone_eq_false_iff.2 h.damage
  have hentries : (flagRepeats (·.symptomId) [] rule.entries).flatMap
      (fun flagged => flagged.1.warnings symptoms rule.id flagged.2) = [] := by
    rw [List.flatMap_eq_nil_iff]
    simp only [Entry.warnings_eq_nil_iff]
    exact forall_flagRepeats_and_iff.2 ⟨h.symptoms_nodup, h.entries⟩
  rw [warnings, hdamage, hentries, Warning.when_false, Warning.when_false, List.nil_append,
    List.append_nil, List.append_nil]

namespace Catalog

variable {c now : Catalog K} {done : List (Edit K)}

/-- Where codes are unique and rules tidy, the only warnings are on rules without entries. -/
theorem HasUniqueCodes.warnings_eq (hc : c.HasUniqueCodes)
    (h : ∀ rule ∈ c.rules, rule.IsTidy c.symptoms c.damages) :
    c.warnings = (c.rules.filter (·.entries.isEmpty)).map fun rule => .emptyRule rule.id := by
  have hsymptoms : (duplicateWarnings .symptoms (·.id) c.symptoms : List (Warning K)) = [] :=
    duplicateWarnings_eq_nil_iff.2 (hc .symptoms)
  have hdamages : (duplicateWarnings .damages (·.id) c.damages : List (Warning K)) = [] :=
    duplicateWarnings_eq_nil_iff.2 (hc .damages)
  have hfresh := forall_flagRepeats_iff.2 ⟨hc .rules, fun _ _ => List.not_mem_nil⟩
  rw [warnings, hsymptoms, hdamages, List.nil_append, List.nil_append, ← Warning.flatMap_when,
    ← flatMap_flagRepeats (·.id) [] c.rules]
  apply List.flatMap_congr
  rintro ⟨rule, again⟩ hflagged
  obtain rfl : again = false := hfresh _ hflagged
  exact (h rule (mem_flagRepeats hflagged)).warnings_eq

namespace Remains

/-- What remains of a well-formed rule is tidy, if what it refers to is listed still. -/
theorem isTidy (h : c.Remains done now) (hc : c.WellFormed) (hlinked : now.IsLinked) :
    ∀ rule ∈ now.rules, rule.IsTidy now.symptoms now.damages := by
  obtain ⟨kept, hkept, hrules⟩ := h.rules
  intro left hleft
  have hlisted := hlinked left hleft
  rw [hrules] at hleft
  obtain ⟨rule, hrule, rfl⟩ := List.mem_map.1 hleft
  have hwell := hc.rules rule (hkept.subset hrule)
  refine ⟨isSome_damage_withCode?_iff.2 hlisted.damage, ?_, fun entry hentry => ?_⟩
  · exact hwell.symptoms_nodup.sublist (List.filter_sublist.map _)
  · exact ⟨isSome_symptom_withCode?_iff.2 (hlisted.symptoms entry hentry),
      (hwell.entries entry (List.mem_of_mem_filter hentry)).cfExpert⟩

/-- The rules that remain of a well-formed catalog are warned of if they lost all entries, and
nothing else is. -/
theorem warnings_eq (h : c.Remains done now) (hc : c.WellFormed) (hlinked : now.IsLinked) :
    now.warnings = (c.rules.filter fun rule => rule.id ∈ now.codes .rules ∧
        ∀ entry ∈ rule.entries, entry.symptomId ∈ takenSymptoms done).map
      fun rule => .emptyRule rule.id := by
  obtain ⟨kept, hkept, hrules⟩ := h.rules
  have hstay : kept = c.rules.filter fun rule => rule.id ∈ now.codes .rules := by
    rw [Catalog.codes, hrules, List.map_map]
    exact eq_filter_of_sublist hkept hc.rules_nodup
  rw [h.codes.warnings_eq (h.isTidy hc hlinked), hrules, List.filter_map, List.map_map, hstay,
    List.filter_filter]
  refine congrArg (List.map _) (List.filter_congr fun rule _ => ?_)
  rw [Bool.eq_iff_iff, Bool.and_eq_true, Function.comp_apply, List.isEmpty_iff,
    RuleDefinition.entries_less_eq_nil_iff, decide_eq_true_iff, decide_eq_true_iff, and_comm]

end Remains

end Catalog

end

/-! ## Snapshots that report no unknown reference -/

/-- No reference to a record that is not listed is reported. -/
def Snapshot.HasNoUnknown {K : Type} (s : Snapshot K) : Prop :=
  ∀ ruleId code,
    .unknownDamage ruleId code ∉ s.warnings ∧ .unknownSymptom ruleId code ∉ s.warnings

section

variable {c : Catalog Binary64} {revision : Nat}

theorem Catalog.hasNoUnknown_snapshot_iff : (c.snapshot revision).HasNoUnknown ↔ c.IsLinked := by
  constructor
  · intro h rule hrule
    constructor
    · by_contra hunlisted
      exact (h rule.id rule.damageId).1
        (unknownDamage_mem_warnings_iff.2 ⟨rule, hrule, rfl, rfl, hunlisted⟩)
    · intro entry hentry
      by_contra hunlisted
      exact (h rule.id entry.symptomId).2
        (unknownSymptom_mem_warnings_iff.2 ⟨rule, hrule, entry, hentry, rfl, rfl, hunlisted⟩)
  · intro h ruleId code
    constructor
    · intro hmem
      obtain ⟨rule, hrule, -, rfl, hunlisted⟩ := unknownDamage_mem_warnings_iff.1 hmem
      exact hunlisted (h rule hrule).damage
    · intro hmem
      obtain ⟨rule, hrule, entry, hentry, -, rfl, hunlisted⟩ :=
        unknownSymptom_mem_warnings_iff.1 hmem
      exact hunlisted ((h rule hrule).symptoms entry hentry)

/-- An evaluation warns of unknown damages only, so over such a snapshot it drops no rule. -/
theorem Snapshot.HasNoUnknown.drops_nothing (hunknown : (c.snapshot revision).HasNoUnknown)
    {config : Config} {selection : Selection Binary64} {d : Diagnosis Binary64}
    (h : evaluate config selection (c.snapshot revision).rules (c.snapshot revision).damages =
      .ok d) : d.stats.dropped = 0 ∧ d.warnings = [] := by
  obtain ⟨hnoted, hdropped⟩ := warnings_of_evaluate_snapshot h
  have hnil : d.warnings = [] := by
    rw [List.eq_nil_iff_forall_not_mem]
    intro w hw
    have hwarned := hw
    rw [evaluate_eq_ok h, warnings_diagnosisOf] at hwarned
    obtain ⟨rule, -, rfl⟩ := List.mem_map.1 hwarned
    exact (hunknown rule.id rule.damageId).1 (hnoted _ hw)
  rw [← hdropped, hnil]
  exact ⟨rfl, rfl⟩

end

/-! ## Runs -/

namespace CatalogStore

section

variable {K : Type}

/-- The edit that was done, if one was. -/
def doneEdit? {S : Type} : Operation K × Answer K S → Option (Edit K)
  | (.edit _ e, .edited (.ok _)) => some e
  | _ => none

/-- The operation asks to put a rule in. -/
def Operation.putsRule : Operation K → Bool
  | edit _ e => e.putsRule
  | _ => false

variable [Confidence K]

namespace State

/-- Each rule that the operations put in refers to what is listed at that moment. -/
def LinksAll (s : State K) : List (Operation K) → Prop
  | [] => True
  | op :: ops =>
    (∀ e, op = .edit .expert e → s.store.catalog.Links e) ∧ (s.step op).2.LinksAll ops

/-- A step does an edit for an expert, or leaves the catalog as it is. -/
theorem step_edits {s : State K} (h : s.store.IsCurrent) (op : Operation K) :
    (s.step op).2.store.IsCurrent ∧
      ((∃ e removed, op = .edit .expert e ∧ doneEdit? (op, (s.step op).1) = some e ∧
        s.store.catalog.edit .expert e = .ok (removed, (s.step op).2.store.catalog)) ∨
      doneEdit? (op, (s.step op).1) = none ∧
        (s.step op).2.store.catalog = s.store.catalog) := by
  obtain ⟨-, hcatalog, -, hsnapshot⟩ := h.snapshot
  cases op with
  | edit role e =>
    refine ⟨h.edit role e, ?_⟩
    simp only [step]
    rcases s.store.edit_cases role e with ⟨removed, c, hc, hedit⟩ | ⟨error, -, hedit⟩
    · rw [hedit]
      cases role with
      | user => cases hc
      | expert => exact .inl ⟨e, removed, rfl, rfl, hc⟩
    · rw [hedit]
      exact .inr ⟨rfl, rfl⟩
  | snapshot => exact ⟨hsnapshot, .inr ⟨rfl, hcatalog⟩⟩
  | joinedRules => exact ⟨hsnapshot, .inr ⟨rfl, hcatalog⟩⟩
  | view place => exact ⟨h, .inr ⟨rfl, rfl⟩⟩
  | document => exact ⟨h, .inr ⟨rfl, rfl⟩⟩
  | list collection => exact ⟨h, .inr ⟨rfl, rfl⟩⟩
  | revision => exact ⟨h, .inr ⟨rfl, rfl⟩⟩

variable {s : State K} {ops : List (Operation K)}

theorem isCurrent_run (h : s.store.IsCurrent) (ops : List (Operation K)) :
    (runSteps step s ops).2.store.IsCurrent := by
  induction ops generalizing s with
  | nil => exact h
  | cons op ops ih => exact ih (step_edits h op).1

theorem isLinked_run (hcurrent : s.store.IsCurrent) (h : s.store.catalog.IsLinked)
    (hops : s.LinksAll ops) : (runSteps step s ops).2.store.catalog.IsLinked := by
  induction ops generalizing s with
  | nil => exact h
  | cons op ops ih =>
    obtain ⟨hnext, hedits⟩ := step_edits hcurrent op
    refine ih hnext ?_ hops.2
    rcases hedits with ⟨e, removed, rfl, -, hedit⟩ | ⟨-, hcatalog⟩
    · exact h.edit (hops.1 e rfl) hedit
    · rwa [hcatalog]

theorem remains_run {c : Catalog K} {done : List (Edit K)} (hcurrent : s.store.IsCurrent)
    (h : c.Remains done s.store.catalog) (hops : ∀ op ∈ ops, op.putsRule = false) :
    let run := runSteps step s ops
    c.Remains (done ++ (ops.zip run.1).filterMap doneEdit?) run.2.store.catalog := by
  induction ops generalizing s done with
  | nil => simpa [runSteps] using h
  | cons op ops ih =>
    obtain ⟨hop, hrest⟩ := List.forall_mem_cons.1 hops
    obtain ⟨hnext, hedits⟩ := step_edits hcurrent op
    simp only [runSteps, List.zip_cons_cons]
    rcases hedits with ⟨e, removed, rfl, hdone, hedit⟩ | ⟨hdone, hcatalog⟩
    · rw [List.filterMap_cons_some hdone, List.append_cons]
      exact ih hnext (h.edit hop hedit) hrest
    · rw [List.filterMap_cons_none hdone]
      exact ih hnext (hcatalog ▸ h) hrest

end State

end

/-- From a store whose snapshot reports no unknown reference, a run of edits and reads leads to such
a snapshot again, over which no evaluation drops a rule, if the rules that are put in refer to what
is listed at that moment. If the snapshot was consistent and no rule is put in, the rules that
remain and all of whose entries named symptoms taken out since are warned of, each once, and nothing
else is. -/
theorem run_keeps_references (s : State Binary64) (hcurrent : s.store.IsCurrent)
    (hstart : s.store.snapshot.1.snapshot.HasNoUnknown) (ops : List (Operation Binary64))
    (hops : s.LinksAll ops) :
    let run := runSteps State.step s ops
    let taken := takenSymptoms ((ops.zip run.1).filterMap doneEdit?)
    let later := run.2.store.snapshot.1.snapshot
    later.HasNoUnknown ∧
      (∀ config selection d, evaluate config selection later.rules later.damages = .ok d →
        d.stats.dropped = 0 ∧ d.warnings = []) ∧
      (s.store.snapshot.1.snapshot.isConsistent → (∀ op ∈ ops, op.putsRule = false) →
        later.warnings =
          (s.store.catalog.rules.filter fun rule => rule.id ∈ run.2.store.catalog.codes .rules ∧
              ∀ entry ∈ rule.entries, entry.symptomId ∈ taken).map
            fun rule => .emptyRule rule.id) := by
  intro run taken later
  have hlater : later = run.2.store.catalog.snapshot run.2.store.revision :=
    (State.isCurrent_run hcurrent ops).snapshot.1
  rw [hcurrent.snapshot.1] at hstart ⊢
  have hlinked : run.2.store.catalog.IsLinked :=
    State.isLinked_run hcurrent (Catalog.hasNoUnknown_snapshot_iff.1 hstart) hops
  have hunknown : later.HasNoUnknown := by
    rw [hlater]
    exact Catalog.hasNoUnknown_snapshot_iff.2 hlinked
  refine ⟨hunknown, fun config selection d hd => ?_, fun hconsistent hnone => ?_⟩
  · rw [hlater] at hunknown hd
    exact hunknown.drops_nothing hd
  · have hwell := Catalog.isConsistent_snapshot_iff.1 hconsistent
    have hcodes : s.store.catalog.HasUniqueCodes := by
      intro collection
      cases collection with
      | symptoms => exact hwell.symptoms_nodup
      | damages => exact hwell.damages_nodup
      | rules => exact hwell.rules_nodup
    rw [hlater]
    exact (State.remains_run hcurrent (.start hcodes) hnone).warnings_eq hwell hlinked

/-- Three rules: the first loses its only entry with the symptom `G01`, the second goes with the
damage `K02`, the third stays with one entry of two. -/
def linkedCatalog : Catalog Binary64 where
  symptoms := [⟨"G01", "Engine hard to start", ""⟩, ⟨"G02", "Engine dies at idle", ""⟩]
  damages := [⟨"K01", "Fouled spark plug", "", ""⟩, ⟨"K02", "Clogged carburetor", "", ""⟩]
  rules := [⟨"R1", "K01", [⟨"G01", 0.8⟩]⟩, ⟨"R2", "K02", [⟨"G01", 0.6⟩]⟩,
    ⟨"R3", "K01", [⟨"G01", 0.2⟩, ⟨"G02", 0.4⟩]⟩]

theorem run_keeps_references_linked :
    let start : State Binary64 := { store := ofCatalog linkedCatalog }
    let ops : List (Operation Binary64) := [.snapshot, .edit .expert (.remove .symptoms "G01"),
      .edit .user (.remove .rules "R3"), .snapshot, .edit .expert (.remove .damages "K02"),
      .edit .expert (.upsert (.symptom ⟨"G01", "Engine will not start", ""⟩))]
    let more := ops ++ [.edit .expert (.upsert (.rule ⟨"R4", "K01", [⟨"G01", 0.4⟩]⟩))]
    start.store.IsCurrent ∧ start.store.snapshot.1.snapshot.HasNoUnknown ∧
      start.store.snapshot.1.snapshot.isConsistent ∧
      start.LinksAll ops ∧ (∀ op ∈ ops, op.putsRule = false) ∧
      (runSteps State.step start ops).2.store.snapshot.1.snapshot.warnings = [.emptyRule "R1"] ∧
      start.LinksAll more ∧
      (runSteps State.step start more).2.store.snapshot.1.snapshot.HasNoUnknown := by
  intro start ops more
  have hcurrent : start.store.IsCurrent := isCurrent_ofCatalog linkedCatalog
  have hconsistent : start.store.snapshot.1.snapshot.isConsistent := by decide +kernel
  have hunknown : start.store.snapshot.1.snapshot.HasNoUnknown := by
    intro ruleId code
    rw [List.isEmpty_iff.1 hconsistent]
    exact ⟨List.not_mem_nil, List.not_mem_nil⟩
  have hremoves : start.LinksAll ops :=
    ⟨nofun, fun | _, rfl => trivial, nofun, nofun, fun | _, rfl => trivial, fun | _, rfl => trivial,
      trivial⟩
  -- `G01` is listed again when the rule is put in.
  have hputs : start.LinksAll more :=
    ⟨nofun, fun | _, rfl => trivial, nofun, nofun, fun | _, rfl => trivial, fun | _, rfl => trivial,
      fun | _, rfl => ⟨by decide +kernel, by decide +kernel⟩, trivial⟩
  have hnone : ∀ op ∈ ops, op.putsRule = false := by decide
  obtain ⟨-, -, hwarnings⟩ := run_keeps_references start hcurrent hunknown ops hremoves
  obtain ⟨hstill, -, -⟩ := run_keeps_references start hcurrent hunknown more hputs
  refine ⟨hcurrent, hunknown, hconsistent, hremoves, hnone, ?_, hputs, hstill⟩
  rw [hwarnings hconsistent hnone]
  decide +kernel

end CatalogStore

end CertaintyFactor
