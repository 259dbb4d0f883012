import CertaintyFactor.Proofs.Document.Summary
import CertaintyFactor.Proofs.Evaluation.Candidates

/-!
# Summaries of evaluations

The numbers in the summary of an evaluation fit in the words they are kept in, since percentages are
held within theirs and no place is higher than the number of rules.
-/

set_option autoImplicit false

namespace CertaintyFactor

theorem Binary64.round_mem (x : Binary64) : minInt64 ≤ x.round ∧ x.round ≤ maxInt64 := by
  cases x with
  | nan => decide
  | signed negative m =>
    simp only [round]
    split
    · have hheld (n : Int) : minInt64 ≤ max minInt64 (min maxInt64 n) ∧
          max minInt64 (min maxInt64 n) ≤ maxInt64 := by
        unfold minInt64 maxInt64
        omega
      exact hheld _
    · cases negative <;> decide

theorem length_rank {K : Type} [Confidence K] (tieBreak : TieBreak) (cs : List (Candidate K)) :
    (rank tieBreak cs).length = cs.length := by
  rw [rank, List.length_mapIdx, List.length_mergeSort]

theorem length_candidates_le {K : Type} [Confidence K] (selection : Selection K)
    (damages : List Damage) (rules : List (Rule K)) :
    (candidates selection damages rules).length ≤ rules.length :=
  List.length_filterMap_le _ _

/-- The summary of an evaluation is sized if the numbers of reports and rules fit in a word. -/
theorem Summary.sized_ofDiagnosis {config : Config} {selection : Selection Binary64}
    {rules : List (Rule Binary64)} {damages : List Damage} {d : Diagnosis Binary64}
    (h : evaluate config selection rules damages = .ok d)
    (hselection : selection.length ≤ Json.Number.maxSignificand)
    (hrules : rules.length ≤ Json.Number.maxSignificand) :
    (ofDiagnosis selection d.results).Sized := by
  have hlength := length_candidates_le selection damages rules
  have hresults : ∀ r ∈ (ofDiagnosis selection d.results).results,
      r.rank ≤ Json.Number.maxSignificand ∧ ∃ x : Binary64, r.percentage = x.percent := by
    intro r hr
    obtain ⟨c, hc, rfl⟩ := List.mem_map.1 hr
    obtain ⟨rule, -, found, hfound, place, hplace, rfl⟩ := exists_concludes_of_mem h hc
    exact ⟨hplace.trans (hlength.trans hrules), found.cf, hfound.percentage⟩
  refine ⟨hselection, ?_, fun r hr => (hresults r hr).1, fun r hr => ?_, fun r hr => ?_⟩
  · rw [ofDiagnosis, evaluate_eq_ok h, results_diagnosisOf, length_rank]
    exact hlength.trans hrules
  · obtain ⟨x, hx⟩ := (hresults r hr).2
    rw [hx]
    exact (x * 100).round_mem.1
  · obtain ⟨x, hx⟩ := (hresults r hr).2
    rw [hx]
    exact (x * 100).round_mem.2

end CertaintyFactor
