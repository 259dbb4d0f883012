import CertaintyFactor.Proofs.Evaluation.Candidates
import CertaintyFactor.Proofs.Text.ByteOrder
import Mathlib.Data.String.Basic

/-!
# The ranking of candidates

Candidates are compared by a key, their certainty with a NaN taken for negative infinity, then by
the tie break, then by their places before the ranking. `RanksBefore` says so in the words of the
total order on binary64 numbers and of the bytes of damage codes. It is asymmetric and orders any
two candidates with different places, so there is just one list that is sorted by it, and `rank_eq`
says that `rank` returns that one.
-/

set_option autoImplicit false

namespace CertaintyFactor

namespace Binary64

/-- The total order on binary64 numbers other than NaN, with negative zero below positive zero. -/
def TotallyBelow : Binary64 → Binary64 → Prop
  | .signed true m, .signed true n => n.rank < m.rank
  | .signed true _, .signed false _ => True
  | .signed false m, .signed false n => m.rank < n.rank
  | _, _ => False

/-- The number a certainty is ranked by: a NaN counts as negative infinity. -/
def sortKey (x : Binary64) : Binary64 :=
  if x.isNaN then negativeInfinity else x

theorem orderKey_sortKey (x : Binary64) : x.sortKey.orderKey = x.orderKey := by
  cases x <;> rfl

theorem isNaN_sortKey (x : Binary64) : x.sortKey.isNaN = false := by
  cases x <;> rfl

theorem orderKey_lt_iff {x y : Binary64} (hx : x.isNaN = false) (hy : y.isNaN = false) :
    x.orderKey < y.orderKey ↔ x.TotallyBelow y := by
  cases x with
  | nan => cases hx
  | signed s m =>
    cases y with
    | nan => cases hy
    | signed t n =>
      cases s <;> cases t <;> simp only [orderKey, TotallyBelow, iff_true, iff_false] <;> omega

/-- Numbers other than NaN at one place of the total order are the same. -/
theorem orderKey_inj {x y : Binary64} (hx : x.isNaN = false) (hy : y.isNaN = false) :
    x.orderKey = y.orderKey ↔ x = y := by
  constructor
  · intro h
    cases x with
    | nan => cases hx
    | signed s m =>
      cases y with
      | nan => cases hy
      | signed t n =>
        obtain ⟨m, hm⟩ := m
        obtain ⟨n, hn⟩ := n
        cases s <;> cases t <;> simp only [orderKey] at h
        · obtain rfl : m = n := by omega
          rfl
        · omega
        · omega
        · obtain rfl : m = n := by omega
          rfl
  · rintro rfl
    rfl

end Binary64

/-! ## The order of candidates -/

/-- A candidate with its place among the candidates in the order of the rules. -/
abbrev Placed := Candidate Binary64 × Nat

/-- `a` ranks before `b`: its key is above, or the keys are the same and the tie break puts it
first. -/
def RanksBefore (tieBreak : TieBreak) (a b : Placed) : Prop :=
  b.1.cf.sortKey.TotallyBelow a.1.cf.sortKey ∨ a.1.cf.sortKey = b.1.cf.sortKey ∧
    match tieBreak with
    | .ruleOrder => a.2 < b.2
    | .damageId => Text.utf8 a.1.damageId < Text.utf8 b.1.damageId ∨
        a.1.damageId = b.1.damageId ∧ a.2 < b.2

/-- `RanksBefore` by the places of certainties on one line and the order of texts. -/
theorem ranksBefore_iff {tieBreak : TieBreak} {a b : Placed} :
    RanksBefore tieBreak a b ↔ b.1.cf.orderKey < a.1.cf.orderKey ∨
      a.1.cf.orderKey = b.1.cf.orderKey ∧
        match tieBreak with
        | .ruleOrder => a.2 < b.2
        | .damageId => a.1.damageId < b.1.damageId ∨ a.1.damageId = b.1.damageId ∧ a.2 < b.2 := by
  unfold RanksBefore
  simp only [← Binary64.orderKey_lt_iff (Binary64.isNaN_sortKey _) (Binary64.isNaN_sortKey _),
    ← Binary64.orderKey_inj (Binary64.isNaN_sortKey _) (Binary64.isNaN_sortKey _),
    Binary64.orderKey_sortKey, Text.utf8_lt_iff]

theorem RanksBefore.asymm {tieBreak : TieBreak} {a b : Placed} (hab : RanksBefore tieBreak a b) :
    ¬ RanksBefore tieBreak b a := by
  rw [ranksBefore_iff] at *
  rintro (hba | ⟨heq, hba⟩)
  · rcases hab with hab | ⟨hab, -⟩ <;> omega
  · rcases hab with hab | ⟨-, hab⟩
    · omega
    · cases tieBreak with
      | ruleOrder => exact Nat.lt_asymm hab hba
      | damageId =>
        rcases hab with hab | ⟨hab, hplace⟩ <;> rcases hba with hba | ⟨hba, hplace'⟩
        · exact String.lt_asymm hab hba
        · exact String.ne_of_lt hab hba.symm
        · exact String.ne_of_lt hba hab.symm
        · exact Nat.lt_asymm hplace hplace'

namespace Candidate

/-- What `rank` sorts by, with the places of certainties on one line. -/
theorem precedes_iff {tieBreak : TieBreak} {a b : Candidate Binary64} :
    a.precedes tieBreak b = true ↔ b.cf.orderKey < a.cf.orderKey ∨
      a.cf.orderKey = b.cf.orderKey ∧ (tieBreak = .damageId → a.damageId ≤ b.damageId) := by
  have hcompare : Confidence.compareCertainty a.cf b.cf = compare a.cf.orderKey b.cf.orderKey :=
    rfl
  rw [← Int.compare_eq_gt, ← Int.compare_eq_eq, ← hcompare]
  unfold precedes
  cases Confidence.compareCertainty a.cf b.cf with
  | lt => simp
  | gt => simp
  | eq => cases tieBreak <;> simp

theorem precedes_trans (tieBreak : TieBreak) (a b c : Candidate Binary64)
    (hab : a.precedes tieBreak b = true) (hbc : b.precedes tieBreak c = true) :
    a.precedes tieBreak c = true := by
  rw [precedes_iff] at *
  rcases hab with hab | ⟨hab, hcodes⟩ <;> rcases hbc with hbc | ⟨hbc, hcodes'⟩
  · exact .inl (by omega)
  · exact .inl (by omega)
  · exact .inl (by omega)
  · exact .inr ⟨by omega, fun h => String.le_trans (hcodes h) (hcodes' h)⟩

theorem precedes_total (tieBreak : TieBreak) (a b : Candidate Binary64) :
    (a.precedes tieBreak b || b.precedes tieBreak a) = true := by
  rw [Bool.or_eq_true, precedes_iff, precedes_iff]
  rcases Int.lt_trichotomy a.cf.orderKey b.cf.orderKey with hlt | heq | hgt
  · exact .inr (.inl hlt)
  · rcases String.le_total a.damageId b.damageId with hle | hle
    · exact .inl (.inr ⟨heq, fun _ => hle⟩)
    · exact .inr (.inr ⟨heq.symm, fun _ => hle⟩)
  · exact .inl (.inl hgt)

end Candidate

/-! ## Sorting with places -/

/-- Sorting breaks what is still tied by the places, as `RanksBefore` does. -/
theorem ranksBefore_of_zipIdxLE {tieBreak : TieBreak} {a b : Placed} (hne : a.2 ≠ b.2)
    (h : List.zipIdxLE (Candidate.precedes tieBreak) a b = true) : RanksBefore tieBreak a b := by
  unfold List.zipIdxLE at h
  split at h
  · next hab =>
    rw [ranksBefore_iff]
    rcases Candidate.precedes_iff.1 hab with hkey | ⟨hkey, hcodes⟩
    · exact .inl hkey
    · refine .inr ⟨hkey, ?_⟩
      split at h
      · have hplace : a.2 < b.2 := by
          have hle : a.2 ≤ b.2 := by simpa using h
          omega
        cases tieBreak with
        | ruleOrder => exact hplace
        | damageId =>
          rcases lt_or_eq_of_le (hcodes rfl) with hlt | heq
          · exact .inl hlt
          · exact .inr ⟨heq, hplace⟩
      · next hba =>
        cases tieBreak with
        | ruleOrder =>
          have hback : b.1.precedes .ruleOrder a.1 = true :=
            Candidate.precedes_iff.2 (.inr ⟨hkey.symm, nofun⟩)
          exact absurd hback hba
        | damageId =>
          refine .inl (String.not_le.1 fun hle => hba ?_)
          exact Candidate.precedes_iff.2 (.inr ⟨hkey.symm, fun _ => hle⟩)
  · cases h

/-- No two candidates of a list have one place. -/
theorem pairwise_place_ne {order : List Placed} {cs : List (Candidate Binary64)}
    (h : order.Perm cs.zipIdx) : order.Pairwise fun a b => a.2 ≠ b.2 := by
  have hnodup : (order.map Prod.snd).Nodup := by
    rw [(h.map Prod.snd).nodup_iff, List.zipIdx_map_snd]
    exact List.nodup_range'
  exact List.pairwise_map.1 hnodup

/-- Ranking lists the candidates in the one order in which each ranks before all that follow it,
and numbers them from 1. -/
theorem rank_eq (tieBreak : TieBreak) (cs : List (Candidate Binary64)) :
    ∃ order : List Placed, order.Perm cs.zipIdx ∧ order.Pairwise (RanksBefore tieBreak) ∧
      (∀ other : List Placed, other.Perm cs.zipIdx → other.Pairwise (RanksBefore tieBreak) →
        other = order) ∧
      rank tieBreak cs = order.mapIdx fun k p => { p.1 with rank := k + 1 } := by
  -- Sorting with the places leaves no ties, and is what the stable sort does without them.
  let order := cs.zipIdx.mergeSort (List.zipIdxLE (Candidate.precedes tieBreak))
  have hperm : order.Perm cs.zipIdx := List.mergeSort_perm _ _
  have hsorted : order.Pairwise (RanksBefore tieBreak) := by
    have hle := List.pairwise_mergeSort
      (List.zipIdxLE_trans (Candidate.precedes_trans tieBreak))
      (List.zipIdxLE_total (Candidate.precedes_total tieBreak)) cs.zipIdx
    exact (hle.and (pairwise_place_ne hperm)).imp fun ⟨hle, hne⟩ => ranksBefore_of_zipIdxLE hne hle
  refine ⟨order, hperm, hsorted, fun other hother hpairwise => ?_, ?_⟩
  · exact (hother.trans hperm.symm).eq_of_pairwise
      (fun a b _ _ hab hba => absurd hba hab.asymm) hpairwise hsorted
  · rw [rank, ← List.mergeSort_zipIdx]
    apply List.ext_getElem
    · simp [order]
    · intro i _ _
      simp [order]

/-- Candidates that already stand in their order are only numbered. -/
theorem rank_of_pairwise {tieBreak : TieBreak} {cs : List (Candidate Binary64)}
    (h : cs.Pairwise fun a b => a.precedes tieBreak b) :
    rank tieBreak cs = cs.mapIdx fun k c => { c with rank := k + 1 } := by
  rw [rank, List.mergeSort_of_pairwise h]

/-- The results of an evaluation are its candidates in the one ranked order, numbered from 1 and
otherwise untouched. -/
theorem evaluate_results_ranked (config : Config) (selection : Selection Binary64)
    (rules : List (Rule Binary64)) (damages : List Damage) (d : Diagnosis Binary64)
    (h : evaluate config selection rules damages = .ok d) :
    ∃ found : List (Candidate Binary64),
      List.Forall₂ (Candidate.Concludes selection damages) found
        (rules.filter fun rule => rule.Yields selection damages) ∧
      ∃ order : List Placed, order.Perm found.zipIdx ∧
        order.Pairwise (RanksBefore config.tieBreak) ∧
        (∀ other : List Placed, other.Perm found.zipIdx →
          other.Pairwise (RanksBefore config.tieBreak) → other = order) ∧
        d.results = order.mapIdx fun k p => { p.1 with rank := k + 1 } := by
  refine ⟨_, forall₂_candidates selection damages rules, ?_⟩
  rw [evaluate_eq_ok h, results_diagnosisOf]
  exact rank_eq config.tieBreak _

theorem evaluate_results_ranked_mixed :
    evaluate {} mixedSelection mixedRules [⟨"K01", "Weak battery", "", ""⟩] =
        .ok (diagnosisOf .damageId mixedSelection mixedRules [⟨"K01", "Weak battery", "", ""⟩]) ∧
      ∃ found : List (Candidate Binary64),
        List.Forall₂ (Candidate.Concludes mixedSelection [⟨"K01", "Weak battery", "", ""⟩]) found
          (mixedRules.filter fun rule =>
            rule.Yields mixedSelection [⟨"K01", "Weak battery", "", ""⟩]) ∧
        ∃ order : List Placed, order.Perm found.zipIdx ∧
          order.Pairwise (RanksBefore .damageId) ∧
          (∀ other : List Placed, other.Perm found.zipIdx →
            other.Pairwise (RanksBefore .damageId) → other = order) ∧
          (diagnosisOf .damageId mixedSelection mixedRules
            [⟨"K01", "Weak battery", "", ""⟩]).results =
            order.mapIdx fun k p => { p.1 with rank := k + 1 } :=
  have hlenient : ({} : Config).strictRanges = false := rfl
  have hselection : mixedSelection ≠ [] := nofun
  have hrules : mixedRules ≠ [] := nofun
  have h := evaluate_lenient hlenient hselection hrules [⟨"K01", "Weak battery", "", ""⟩]
  ⟨h, evaluate_results_ranked {} mixedSelection mixedRules _ _ h⟩

end CertaintyFactor
