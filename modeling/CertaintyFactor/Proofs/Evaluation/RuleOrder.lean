import CertaintyFactor.Proofs.Evaluation.Ranking
import CertaintyFactor.Proofs.Evaluation.Strict
import CertaintyFactor.Proofs.Evaluation.Verdicts
import Mathlib.Data.List.Nodup

/-!
# The order of the rules

When ties are broken by damage codes, candidates are compared by their certainties and damage codes
alone (`Candidate.tieKey`), and what a sort lists place by place of those does not depend on the
order it found. So rules in another order give the same ranking, but for candidates that have the
same certainty and damage code, which may change places among themselves.
-/

set_option autoImplicit false

namespace CertaintyFactor

/-! ## What candidates are compared by -/

/-- The certainty a candidate is ranked by, and its damage code. -/
def Candidate.tieKey (c : Candidate Binary64) : Binary64 × String :=
  (c.cf.sortKey, c.damageId)

/-- A candidate with the first key may stand before one with the second. -/
def TieKeyLE (a b : Binary64 × String) : Prop :=
  b.1.orderKey < a.1.orderKey ∨ a.1.orderKey = b.1.orderKey ∧ a.2 ≤ b.2

theorem TieKeyLE.antisymm {a b : Binary64 × String} (ha : a.1.isNaN = false)
    (hb : b.1.isNaN = false) (hab : TieKeyLE a b) (hba : TieKeyLE b a) : a = b := by
  unfold TieKeyLE at hab hba
  rcases hab with hlt | ⟨heq, hle⟩
  · omega
  · rcases hba with hlt | ⟨-, hle'⟩
    · omega
    · exact Prod.ext ((Binary64.orderKey_inj ha hb).1 heq) (String.le_antisymm hle hle')

namespace Candidate

theorem precedes_damageId_iff {a b : Candidate Binary64} :
    a.precedes .damageId b = true ↔ TieKeyLE a.tieKey b.tieKey := by
  rw [precedes_iff, TieKeyLE, tieKey, tieKey, Binary64.orderKey_sortKey,
    Binary64.orderKey_sortKey]
  simp

theorem tieKey_antisymm {a b : Candidate Binary64} (hab : a.precedes .damageId b = true)
    (hba : b.precedes .damageId a = true) : a.tieKey = b.tieKey :=
  TieKeyLE.antisymm (Binary64.isNaN_sortKey _) (Binary64.isNaN_sortKey _)
    (precedes_damageId_iff.1 hab) (precedes_damageId_iff.1 hba)

theorem pairwise_mergeSort_precedes (tieBreak : TieBreak) (cs : List (Candidate Binary64)) :
    (cs.mergeSort (precedes tieBreak)).Pairwise fun a b => a.precedes tieBreak b = true :=
  List.pairwise_mergeSort (precedes_trans tieBreak) (precedes_total tieBreak) cs

end Candidate

/-! ## Rankings of the same candidates -/

section

variable {cs cs' : List (Candidate Binary64)}

theorem mergeSort_perm_mergeSort (tieBreak : TieBreak) (h : cs.Perm cs') :
    (cs.mergeSort (Candidate.precedes tieBreak)).Perm
      (cs'.mergeSort (Candidate.precedes tieBreak)) :=
  (List.mergeSort_perm _ _).trans (h.trans (List.mergeSort_perm _ _).symm)

/-- The keys come in one order, whichever way the candidates stood before. -/
theorem map_tieKey_mergeSort (h : cs.Perm cs') :
    (cs.mergeSort (Candidate.precedes .damageId)).map Candidate.tieKey =
      (cs'.mergeSort (Candidate.precedes .damageId)).map Candidate.tieKey := by
  have hsorted (cs : List (Candidate Binary64)) :
      ((cs.mergeSort (Candidate.precedes .damageId)).map Candidate.tieKey).Pairwise TieKeyLE := by
    rw [List.pairwise_map]
    exact (Candidate.pairwise_mergeSort_precedes _ cs).imp Candidate.precedes_damageId_iff.1
  refine ((mergeSort_perm_mergeSort _ h).map _).eq_of_pairwise ?_ (hsorted cs) (hsorted cs')
  intro a b ha hb hab hba
  obtain ⟨c, -, rfl⟩ := List.mem_map.1 ha
  obtain ⟨c', -, rfl⟩ := List.mem_map.1 hb
  exact hab.antisymm (Binary64.isNaN_sortKey _) (Binary64.isNaN_sortKey _) hba

theorem map_rank_tieKey (tieBreak : TieBreak) (cs : List (Candidate Binary64)) :
    (rank tieBreak cs).map (fun c => (c.rank, c.tieKey)) =
      ((cs.mergeSort (Candidate.precedes tieBreak)).map Candidate.tieKey).mapIdx
        fun i key => (i + 1, key) := by
  apply List.ext_getElem
  · simp [rank]
  · intro i _ _
    simp [rank, Candidate.tieKey]

theorem map_tieKey_rank (tieBreak : TieBreak) (cs : List (Candidate Binary64)) :
    (rank tieBreak cs).map Candidate.tieKey =
      (cs.mergeSort (Candidate.precedes tieBreak)).map Candidate.tieKey :=
  calc (rank tieBreak cs).map Candidate.tieKey
    _ = ((rank tieBreak cs).map Candidate.unranked).map Candidate.tieKey := by
      rw [List.map_map]
      rfl
    _ = ((cs.mergeSort (Candidate.precedes tieBreak)).map Candidate.unranked).map
        Candidate.tieKey := by rw [map_unranked_rank]
    _ = (cs.mergeSort (Candidate.precedes tieBreak)).map Candidate.tieKey := by
      rw [List.map_map]
      rfl

/-- Where no two candidates have one key, no order but one is sorted. -/
theorem rank_eq_of_nodup (h : cs.Perm cs')
    (hdistinct : ((rank .damageId cs).map Candidate.tieKey).Nodup) :
    rank .damageId cs' = rank .damageId cs := by
  rw [map_tieKey_rank] at hdistinct
  have hperm := mergeSort_perm_mergeSort .damageId h
  have hsort : cs.mergeSort (Candidate.precedes .damageId) =
      cs'.mergeSort (Candidate.precedes .damageId) := by
    refine hperm.eq_of_pairwise ?_ (Candidate.pairwise_mergeSort_precedes _ cs)
      (Candidate.pairwise_mergeSort_precedes _ cs')
    intro a b ha hb hab hba
    exact List.inj_on_of_nodup_map hdistinct ha (hperm.mem_iff.2 hb)
      (Candidate.tieKey_antisymm hab hba)
  rw [rank, rank, hsort]

/-- The candidates of one key are the same, in some order. -/
theorem filter_rank_perm (h : cs.Perm cs') (key : Binary64 × String) :
    (((rank .damageId cs').filter (·.tieKey = key)).map Candidate.unranked).Perm
      (((rank .damageId cs).filter (·.tieKey = key)).map Candidate.unranked) := by
  have hblock (results : List (Candidate Binary64)) :
      (results.filter (·.tieKey = key)).map Candidate.unranked =
        (results.map Candidate.unranked).filter (·.tieKey = key) := by
    rw [List.filter_map]
    rfl
  rw [hblock, hblock, map_unranked_rank, map_unranked_rank]
  exact (((mergeSort_perm_mergeSort .damageId h).symm).map _).filter _

end

/-! ## Evaluations of the same rules -/

/-- The diagnoses differ only in the order of their warnings and of candidates with one key. -/
structure Diagnosis.SameButTies (d d' : Diagnosis Binary64) : Prop where
  stats : d'.stats = d.stats
  warnings : d'.warnings.Perm d.warnings
  /-- The places have the same certainties, as they are ranked, and the same damage codes. -/
  keys : d'.results.map (fun c => (c.rank, c.tieKey)) = d.results.map fun c => (c.rank, c.tieKey)
  blocks : ∀ key, ((d'.results.filter (·.tieKey = key)).map Candidate.unranked).Perm
    ((d.results.filter (·.tieKey = key)).map Candidate.unranked)
  results_eq : (d.results.map Candidate.tieKey).Nodup → d'.results = d.results

section

variable {selection : Selection Binary64} {damages : List Damage}
  {rules other : List (Rule Binary64)}

theorem statsOf_perm (h : rules.Perm other) :
    statsOf selection damages other = statsOf selection damages rules := by
  unfold statsOf
  rw [h.length_eq, h.countP_eq, h.countP_eq, h.countP_eq]

theorem sameButTies_diagnosisOf (h : rules.Perm other) :
    (diagnosisOf .damageId selection rules damages).SameButTies
      (diagnosisOf .damageId selection other damages) := by
  have hcandidates : (candidates selection damages rules).Perm
      (candidates selection damages other) := h.filterMap _
  refine ⟨?_, ?_, ?_, fun key => ?_, fun hdistinct => ?_⟩
  · rw [stats_diagnosisOf, stats_diagnosisOf, statsOf_perm h]
  · rw [warnings_diagnosisOf, warnings_diagnosisOf]
    exact ((h.symm.filter _).map _)
  · rw [results_diagnosisOf, results_diagnosisOf, map_rank_tieKey, map_rank_tieKey,
      map_tieKey_mergeSort hcandidates]
  · rw [results_diagnosisOf, results_diagnosisOf]
    exact filter_rank_perm hcandidates key
  · rw [results_diagnosisOf] at hdistinct
    rw [results_diagnosisOf, results_diagnosisOf]
    exact rank_eq_of_nodup hcandidates hdistinct

/-- With ties broken by damage codes and all certainties let through, rules in another order give
the same diagnosis but for the order of warnings and ties, or are refused for the same reason. -/
theorem evaluate_perm_rules (selection : Selection Binary64) (damages : List Damage)
    (rules other : List (Rule Binary64)) (h : rules.Perm other) :
    (selection = [] ∨ rules = [] → evaluate ⟨.damageId, false⟩ selection other damages =
      evaluate ⟨.damageId, false⟩ selection rules damages) ∧
    (selection ≠ [] → rules ≠ [] →
      ∃ d d', evaluate ⟨.damageId, false⟩ selection rules damages = .ok d ∧
        evaluate ⟨.damageId, false⟩ selection other damages = .ok d' ∧ d.SameButTies d') := by
  have hnil : rules = [] ↔ other = [] := by
    constructor
    · rintro rfl
      exact h.symm.eq_nil
    · rintro rfl
      exact h.eq_nil
  constructor
  · intro hempty
    by_cases hrules : rules = []
    · rw [hrules, hnil.1 hrules]
    · rw [hempty.resolve_right hrules, evaluate_of_noSymptoms _ hrules,
        evaluate_of_noSymptoms _ fun hother => hrules (hnil.2 hother)]
  · intro hselection hrules
    have hother : other ≠ [] := fun hother => hrules (hnil.2 hother)
    exact ⟨_, _, evaluate_lenient rfl hselection hrules damages,
      evaluate_lenient rfl hselection hother damages, sameButTies_diagnosisOf h⟩

end

theorem evaluate_perm_rules_reverse :
    mixedRules.Perm mixedRules.reverse ∧ mixedSelection ≠ [] ∧ mixedRules ≠ [] ∧
      ∃ d d', evaluate ⟨.damageId, false⟩ mixedSelection mixedRules
            [⟨"K01", "Weak battery", "", ""⟩] = .ok d ∧
          evaluate ⟨.damageId, false⟩ mixedSelection mixedRules.reverse
            [⟨"K01", "Weak battery", "", ""⟩] = .ok d' ∧
          d.SameButTies d' := by
  have hperm : mixedRules.Perm mixedRules.reverse := (List.reverse_perm _).symm
  have hselection : mixedSelection ≠ [] := nofun
  have hrules : mixedRules ≠ [] := nofun
  obtain ⟨-, hsame⟩ := evaluate_perm_rules mixedSelection [⟨"K01", "Weak battery", "", ""⟩]
    mixedRules mixedRules.reverse hperm
  exact ⟨hperm, hselection, hrules, hsame hselection hrules⟩

end CertaintyFactor
