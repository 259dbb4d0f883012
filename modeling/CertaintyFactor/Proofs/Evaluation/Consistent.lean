import CertaintyFactor.Proofs.Catalog.Consistency
import CertaintyFactor.Proofs.Evaluation.Candidates
import CertaintyFactor.Proofs.Pairing
import Mathlib.Data.List.Perm.Basic

/-!
# Evaluations over consistent snapshots

A consistent snapshot gives an evaluation nothing to trip over. No certainty of an expert is out of
its range, no rule is without entries and none leads to an unknown damage, so every rule that shares
a symptom with the selection yields a result, and all names in it are those of the snapshot's
records.
-/

set_option autoImplicit false

namespace CertaintyFactor

section

variable {K : Type}

/-! ## Candidates that cite a snapshot -/

/-- `c` is a candidate of the rule whose damage and symptoms are records of the snapshot, no symptom
standing in it twice. -/
structure Candidate.Cites (s : Snapshot K) (c : Candidate K) (rule : Rule K) : Prop where
  ruleId : c.ruleId = rule.id
  damage : ∃ damage, s.damage? rule.damageId = some damage ∧ c.damageId = damage.id ∧
    c.name = damage.name ∧ c.description = damage.description ∧ c.solution = damage.solution
  symptoms_nodup : (c.matching.map (·.symptomId)).Nodup
  symptoms : ∀ m ∈ c.matching, ∃ symptom, s.symptom? m.symptomId = some symptom ∧
    m.symptomName = symptom.name

/-- The place in the ranking does not matter. -/
theorem Candidate.Cites.of_unranked {s : Snapshot K} {r c : Candidate K} {rule : Rule K}
    (h : r.unranked = c.unranked) (hc : c.Cites s rule) : r.Cites s rule := by
  have hsame : r = { c with rank := r.rank } := by
    cases r
    cases c
    simpa [unranked] using h
  rw [hsame]
  exact ⟨hc.ruleId, hc.damage, hc.symptoms_nodup, hc.symptoms⟩

end

section

variable {K : Type} [Confidence K]

/-! ## Matches and verdicts -/

section

variable {selection : Selection K} {found : List (Match K)} {entries : List (Rule.Entry K)}

/-- Each match weighs some entry. -/
theorem exists_weighs_of_mem (h : List.Forall₂ (Match.Weighs selection) found entries) {m : Match K}
    (hm : m ∈ found) : ∃ entry ∈ entries, m.Weighs selection entry := by
  induction h with
  | nil => cases hm
  | cons hweighs _ ih =>
    rcases List.mem_cons.1 hm with rfl | hm
    · exact ⟨_, List.mem_cons_self, hweighs⟩
    · obtain ⟨entry, hentry, hweighs⟩ := ih hm
      exact ⟨entry, List.mem_cons_of_mem _ hentry, hweighs⟩

/-- Symptoms are matched in the order of the entries, each as often as it stands there. -/
theorem map_symptomId_eq (h : List.Forall₂ (Match.Weighs selection) found entries) :
    found.map (·.symptomId) = entries.map (·.symptomId) := by
  induction h with
  | nil => rfl
  | cons hweighs _ ih => rw [List.map_cons, List.map_cons, hweighs.symptomId, ih]

end

namespace Rule

variable {rule : Rule K} {selection : Selection K} {damages : List Damage}

/-- The rule and the selection share a symptom. -/
def Shares (selection : Selection K) (rule : Rule K) : Prop :=
  ∃ e ∈ rule.entries, selection.Reports e.symptomId

instance (selection : Selection K) : DecidablePred (Shares selection) :=
  fun rule => inferInstanceAs (Decidable (∃ e ∈ rule.entries, selection.Reports e.symptomId))

/-- A rule that has entries and whose damage is known is not set aside. -/
theorem verdict_of_resolves (hentries : rule.entries ≠ []) (hdamage : rule.Resolves damages) :
    rule.verdict selection damages = .unmatched ∨
      ∃ c, rule.verdict selection damages = .candidate c := by
  have hinert : rule.isInert = false := by simpa [isInert] using hentries
  obtain ⟨damage, hdamage⟩ := Option.isSome_iff_exists.1 (isSome_damage?_iff.2 hdamage)
  rw [verdict, hinert, if_neg Bool.false_ne_true, hdamage]
  dsimp only
  split
  · exact .inl rfl
  · exact .inr ⟨_, rfl⟩

/-- A rule whose entries all keep to the range of experts is judged by its verdict. -/
theorem judge_of_validExpert (h : ∀ entry ∈ rule.entries, Confidence.validExpert entry.cfExpert)
    (config : Config) :
    rule.judge config selection damages = .ok (rule.verdict selection damages) := by
  have hrange : rule.outOfRange? selection = none := by
    rw [outOfRange?, List.find?_eq_none]
    intro m hm
    obtain ⟨entry, hentry, hweighs⟩ := exists_weighs_of_mem (rule.forall₂_matching selection) hm
    simp [hweighs.cfExpert, h entry (List.mem_of_mem_filter hentry)]
  rw [judge, hrange, ite_self]

end Rule

/-- Rules of which none is set aside leave no warning and are not counted as inert or dropped. -/
theorem diagnosisOf_of_resolves (tieBreak : TieBreak) {selection : Selection K}
    {rules : List (Rule K)} {damages : List Damage}
    (hentries : ∀ rule ∈ rules, rule.entries ≠ [])
    (hdamages : ∀ rule ∈ rules, rule.Resolves damages) :
    (diagnosisOf tieBreak selection rules damages).warnings = [] ∧
      (diagnosisOf tieBreak selection rules damages).stats.dropped = 0 ∧
      (diagnosisOf tieBreak selection rules damages).stats.inert = 0 := by
  have hverdicts : ∀ verdict ∈ rules.map (·.verdict selection damages),
      verdict.warning? = none ∧ verdict.isDropped = false ∧ verdict.isInert = false := by
    rw [List.forall_mem_map]
    intro rule hrule
    rcases Rule.verdict_of_resolves (hentries rule hrule) (hdamages rule hrule) with h | ⟨c, h⟩
    · rw [h]
      exact ⟨rfl, rfl, rfl⟩
    · rw [h]
      exact ⟨rfl, rfl, rfl⟩
  refine ⟨?_, ?_, ?_⟩
  · exact List.filterMap_eq_nil_iff.2 fun verdict hverdict => (hverdicts verdict hverdict).1
  · refine List.countP_eq_zero.2 fun verdict hverdict => ?_
    rw [(hverdicts verdict hverdict).2.1]
    exact Bool.false_ne_true
  · refine List.countP_eq_zero.2 fun verdict hverdict => ?_
    rw [(hverdicts verdict hverdict).2.2]
    exact Bool.false_ne_true

/-! ## Results and the rules they stem from -/

/-- The results are, in some order, the candidates with a place each. -/
theorem exists_perm_rank (tieBreak : TieBreak) (cs : List (Candidate K)) :
    ∃ order, (rank tieBreak cs).Perm order ∧
      List.Forall₂ (fun r c => r.unranked = c.unranked) order cs := by
  have hplaced : List.Forall₂ (· = ·) ((rank tieBreak cs).map Candidate.unranked)
      ((cs.mergeSort (Candidate.precedes tieBreak)).map Candidate.unranked) := by
    rw [List.forall₂_eq_eq_eq]
    exact map_unranked_rank tieBreak cs
  rw [List.forall₂_map_left_iff, List.forall₂_map_right_iff] at hplaced
  -- The candidates are a rearrangement of the sorted ones, and the results may be rearranged alike.
  have hcomp : Relation.Comp (List.Forall₂ fun r c => r.unranked = c.unranked) List.Perm
      (rank tieBreak cs) cs := ⟨_, hplaced, List.mergeSort_perm _ _⟩
  rw [List.forall₂_comp_perm_eq_perm_comp_forall₂] at hcomp
  exact hcomp

/-! ## Consistent snapshots -/

namespace RuleDefinition

variable {symptoms : List Symptom} {damages : List Damage} {definition : RuleDefinition K}

namespace WellFormed

theorem exists_damage_join (h : definition.WellFormed symptoms damages) :
    ∃ damage, Damage.withCode? damages definition.damageId = some damage ∧
      (definition.join symptoms damages).damage = some damage := by
  obtain ⟨damage, hdamage⟩ := Option.isSome_iff_exists.1 h.damage
  exact ⟨damage, hdamage, hdamage⟩

theorem entries_join_ne (h : definition.WellFormed symptoms damages) :
    (definition.join symptoms damages).entries ≠ [] :=
  List.map_eq_nil_iff.not.2 h.entries_ne

theorem resolves_join (h : definition.WellFormed symptoms damages) :
    (definition.join symptoms damages).Resolves damages :=
  .inl h.damage

theorem validExpert_join (h : definition.WellFormed symptoms damages) :
    ∀ entry ∈ (definition.join symptoms damages).entries,
      Confidence.validExpert entry.cfExpert := by
  refine List.forall_mem_map.2 fun entry hentry => ?_
  exact (h.entries entry hentry).cfExpert

theorem symptoms_nodup_join (h : definition.WellFormed symptoms damages) :
    ((definition.join symptoms damages).entries.map (·.symptomId)).Nodup := by
  have hcodes : (definition.join symptoms damages).entries.map (·.symptomId) =
      definition.entries.map (·.symptomId) := List.map_map
  rw [hcodes]
  exact h.symptoms_nodup

theorem displayName_join (h : definition.WellFormed symptoms damages) :
    ∀ entry ∈ (definition.join symptoms damages).entries,
      ∃ symptom, Symptom.withCode? symptoms entry.symptomId = some symptom ∧
        entry.displayName = symptom.name := by
  refine List.forall_mem_map.2 fun entry hentry => ?_
  obtain ⟨symptom, hsymptom⟩ := Option.isSome_iff_exists.1 (h.entries entry hentry).symptom
  refine ⟨symptom, hsymptom, ?_⟩
  rw [Entry.join, Rule.Entry.displayName, hsymptom]
  rfl

end WellFormed

end RuleDefinition

namespace Catalog.WellFormed

variable {c : Catalog K}

theorem ids_nodup_snapshot (h : c.WellFormed) (revision : Nat) :
    ((c.snapshot revision).rules.map (·.id)).Nodup := by
  have hids : (c.snapshot revision).rules.map (·.id) = c.rules.map (·.id) := List.map_map
  rw [hids]
  exact h.rules_nodup

theorem shares_iff_yields (h : c.WellFormed) (selection : Selection K) (revision : Nat) :
    ∀ rule ∈ (c.snapshot revision).rules,
      rule.Shares selection ↔ rule.Yields selection c.damages := by
  refine List.forall_mem_map.2 fun definition hdefinition => ?_
  exact (and_iff_left (h.rules definition hdefinition).resolves_join).symm

/-- What a rule of the snapshot concludes cites the snapshot. -/
theorem cites_of_concludes (h : c.WellFormed) {selection : Selection K} (revision : Nat) :
    ∀ rule ∈ (c.snapshot revision).rules, ∀ found : Candidate K,
      found.Concludes selection c.damages rule → found.Cites (c.snapshot revision) rule := by
  refine List.forall_mem_map.2 fun definition hdefinition found hfound => ?_
  have hrule := h.rules definition hdefinition
  refine ⟨hfound.ruleId, ?_, ?_, fun m hm => ?_⟩
  · obtain ⟨damage, hlisted, hcarried⟩ := hrule.exists_damage_join
    obtain ⟨leads, hleads, htexts⟩ := hfound.damage
    obtain rfl : leads = damage := by
      cases hleads with
      | carried hcarried' => exact Option.some.inj (hcarried'.symm.trans hcarried)
      | listed _ _ hnone => cases hnone.symm.trans hcarried
    exact ⟨leads, hlisted, htexts⟩
  · rw [map_symptomId_eq hfound.matching]
    exact hrule.symptoms_nodup_join.sublist (List.filter_sublist.map _)
  · obtain ⟨entry, hentry, hweighs⟩ := exists_weighs_of_mem hfound.matching hm
    obtain ⟨symptom, hsymptom, hname⟩ :=
      hrule.displayName_join entry (List.mem_of_mem_filter hentry)
    refine ⟨symptom, ?_, hweighs.symptomName.trans hname⟩
    rw [hweighs.symptomId]
    exact hsymptom

end Catalog.WellFormed

/-- A selection is evaluated over a consistent snapshot without any error or warning, and with one
result, which cites the snapshot, for each rule that shares a symptom with it. -/
theorem evaluate_consistent {c : Catalog K} {revision : Nat}
    (hconsistent : (c.snapshot revision).isConsistent) (hrules : (c.snapshot revision).rules ≠ [])
    (config : Config) {selection : Selection K} (hselection : selection ≠ [])
    (hvalid : config.strictRanges → ∀ r ∈ selection, Confidence.validUser r.cfUser) :
    let s := c.snapshot revision
    ∃ d, evaluate config selection s.rules s.damages = .ok d ∧
      d.warnings = [] ∧ d.stats.dropped = 0 ∧ d.stats.inert = 0 ∧
      (s.rules.map (·.id)).Nodup ∧
      ∃ order, d.results.Perm order ∧
        List.Forall₂ (Candidate.Cites s) order
          (s.rules.filter fun rule => rule.Shares selection) := by
  have hformed := Catalog.isConsistent_snapshot_iff.1 hconsistent
  have hjudge : ∀ rule ∈ (c.snapshot revision).rules, rule.judge config selection c.damages =
      .ok (rule.verdict selection c.damages) := by
    refine List.forall_mem_map.2 fun definition hdefinition => ?_
    exact Rule.judge_of_validExpert (hformed.rules definition hdefinition).validExpert_join config
  refine ⟨_, evaluate_of_forall (refusal?_eq_none hselection hrules hvalid) hjudge, ?_⟩
  obtain ⟨hwarnings, hdropped, hinert⟩ := diagnosisOf_of_resolves config.tieBreak
    (List.forall_mem_map.2 fun definition hdefinition =>
      (hformed.rules definition hdefinition).entries_join_ne)
    (List.forall_mem_map.2 fun definition hdefinition =>
      (hformed.rules definition hdefinition).resolves_join)
  refine ⟨hwarnings, hdropped, hinert, hformed.ids_nodup_snapshot revision, ?_⟩
  obtain ⟨order, hperm, hplaced⟩ := exists_perm_rank config.tieBreak
    (candidates selection c.damages (c.snapshot revision).rules)
  have hyields : ((c.snapshot revision).rules.filter fun rule => rule.Shares selection) =
      (c.snapshot revision).rules.filter fun rule => rule.Yields selection c.damages := by
    refine List.filter_congr fun rule hrule => ?_
    rw [decide_eq_decide]
    exact hformed.shares_iff_yields selection revision rule hrule
  rw [results_diagnosisOf, hyields]
  refine ⟨order, hperm, ?_⟩
  refine forall₂_comp hplaced (forall₂_candidates _ _ _) fun r found rule hrule hsame hfound => ?_
  exact .of_unranked hsame
    (hformed.cites_of_concludes revision rule (List.mem_of_mem_filter hrule) found hfound)

end

/-- A catalog with a rule of two entries, one of them against its damage, and a rule of one. -/
def soundCatalog : Catalog Binary64 where
  symptoms := [⟨"G01", "Engine hard to start", ""⟩, ⟨"G02", "Engine dies at idle", ""⟩]
  damages := [⟨"K01", "Fouled spark plug", "", "Replace the plug"⟩]
  rules := [⟨"R1", "K01", [⟨"G02", -1⟩, ⟨"G01", 0.8⟩]⟩, ⟨"R2", "K01", [⟨"G02", 1⟩]⟩]

theorem evaluate_consistent_strict :
    (soundCatalog.snapshot 3).isConsistent ∧ (soundCatalog.snapshot 3).rules ≠ [] ∧
      (Config.strict.strictRanges → ∀ r ∈ [(⟨"G01", 0.5⟩ : Reported Binary64)],
        Confidence.validUser r.cfUser) ∧
      let s := soundCatalog.snapshot 3
      ∃ d, evaluate .strict [⟨"G01", 0.5⟩] s.rules s.damages = .ok d ∧
        d.warnings = [] ∧ d.stats.dropped = 0 ∧ d.stats.inert = 0 ∧
        (s.rules.map (·.id)).Nodup ∧
        ∃ order, d.results.Perm order ∧ List.Forall₂ (Candidate.Cites s) order
          (s.rules.filter fun rule => rule.Shares [⟨"G01", (0.5 : Binary64)⟩]) := by
  have hconsistent : (soundCatalog.snapshot 3).isConsistent := by decide +kernel
  have hrules : (soundCatalog.snapshot 3).rules ≠ [] := nofun
  have hvalid : Config.strict.strictRanges → ∀ r ∈ [(⟨"G01", 0.5⟩ : Reported Binary64)],
      Confidence.validUser r.cfUser := by decide +kernel
  exact ⟨hconsistent, hrules, hvalid,
    evaluate_consistent hconsistent hrules .strict (List.cons_ne_nil _ _) hvalid⟩

end CertaintyFactor
