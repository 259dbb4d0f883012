import Mathlib.Data.Rat.Floor
import CertaintyFactor.Proofs.Evaluation.Evidence
import CertaintyFactor.Proofs.Evaluation.Parts

/-!
# The order of a rule's entries

A rule's entries are combined in their order, which rounding makes visible. In exact arithmetic it
is not: what some certainties come to does not depend on their order or grouping (`Accumulates`), so
a rule whose entries stand in another order comes to the same end with the same certainty
(`Rule.Reorders.verdict`). Results are ranked by certainties and damage codes, hence they keep their
places too, and only the matches that they list are reordered.
-/

set_option autoImplicit false

namespace CertaintyFactor

/-! ## Combining certainties -/

/-- `fold` accumulates certainties: each takes its share of what the others leave to one. -/
structure Accumulates (fold : List ℚ → Option ℚ) : Prop where
  complement : ∀ xs ≠ [], fold xs = some (1 - (xs.map (1 - ·)).prod)
  perm : ∀ xs ys, xs.Perm ys → fold xs = fold ys
  append : ∀ xs ≠ [], ∀ ys ≠ [], ∃ a b, fold xs = some a ∧ fold ys = some b ∧
    fold (xs ++ ys) = some (combine a b)
  unit : ∀ xs ≠ [], (∀ x ∈ xs, 0 ≤ x ∧ x ≤ 1) →
    ∃ cf, fold xs = some cf ∧ 0 ≤ cf ∧ cf ≤ 1 ∧ ∀ x ∈ xs, x ≤ cf
  mono : ∀ xs ≠ [], ∀ ys, List.Forall₂ (· ≤ ·) xs ys → (∀ y ∈ ys, y ≤ 1) →
    ∃ a b, fold xs = some a ∧ fold ys = some b ∧ a ≤ b

theorem accumulates_combineAll? : Accumulates combineAll? where
  complement _ hxs := combineAll?_eq_together hxs
  perm _ _ := combineAll?_perm
  append xs hxs ys hys := by
    refine ⟨_, _, combineAll?_eq_together hxs, combineAll?_eq_together hys, ?_⟩
    rw [combineAll?_eq_together (List.append_ne_nil_of_left_ne_nil hxs ys), together_append]
  unit _ hxs hunit := by
    obtain ⟨hzero, hone⟩ := together_mem_unit hunit
    exact ⟨_, combineAll?_eq_together hxs, hzero, hone, le_together hunit⟩
  mono xs hxs ys hle hone := by
    have hys : ys ≠ [] := by
      rintro rfl
      exact hxs (List.forall₂_nil_right_iff.1 hle)
    exact ⟨_, _, combineAll?_eq_together hxs, combineAll?_eq_together hys,
      together_le_of_forall₂ hle hone⟩

/-- Rounding depends on the order. -/
example : combineAll? [(0.1 : Binary64), 0.2, 0.3] ≠ combineAll? [0.3, 0.2, 0.1] := by
  decide +kernel

/-! ## Alike but for order -/

section

variable {K : Type}

/-- The rules are alike but for the order of their entries. -/
structure Rule.Reorders (rule other : Rule K) : Prop where
  id : other.id = rule.id
  damageId : other.damageId = rule.damageId
  damage : other.damage = rule.damage
  entries : rule.entries.Perm other.entries

/-- The candidates are alike but for the order of their matches. -/
structure Candidate.Reorders (c c' : Candidate K) : Prop where
  matching : c.matching.Perm c'.matching
  others : c' = { c with matching := c'.matching }

/-- The verdicts are the same, or alike candidates. -/
inductive Verdict.Reorders : Verdict K → Verdict K → Prop
  | same (verdict : Verdict K) : Reorders verdict verdict
  | candidate {c c' : Candidate K} (h : c.Reorders c') : Reorders (.candidate c) (.candidate c')

/-- The diagnoses are alike but for the order of the matches in each of their results. -/
structure Diagnosis.Reorders (d d' : Diagnosis K) : Prop where
  results : List.Forall₂ Candidate.Reorders d.results d'.results
  warnings : d'.warnings = d.warnings
  stats : d'.stats = d.stats

theorem Candidate.Reorders.refl (c : Candidate K) : c.Reorders c :=
  ⟨List.Perm.refl _, rfl⟩

namespace Verdict.Reorders

variable {v v' : Verdict K}

theorem candidate? (h : v.Reorders v') :
    Option.Rel Candidate.Reorders v.candidate? v'.candidate? := by
  cases h with
  | same =>
    cases v with
    | candidate c => exact .some (.refl c)
    | _ => exact .none
  | candidate h => exact .some h

theorem warning? (h : v.Reorders v') : v'.warning? = v.warning? := by
  cases h <;> rfl

theorem kind (h : v.Reorders v') : v.isInert = v'.isInert ∧ v.isUnmatched = v'.isUnmatched ∧
    v.isDropped = v'.isDropped := by
  cases h <;> exact ⟨rfl, rfl, rfl⟩

end Verdict.Reorders

theorem Stats.ofVerdicts_reorders {vs vs' : List (Verdict K)}
    (h : List.Forall₂ Verdict.Reorders vs vs') : Stats.ofVerdicts vs' = Stats.ofVerdicts vs := by
  unfold Stats.ofVerdicts
  rw [h.length_eq, countP_eq_of_forall₂ h fun _ _ hv => hv.kind.1,
    countP_eq_of_forall₂ h fun _ _ hv => hv.kind.2.1,
    countP_eq_of_forall₂ h fun _ _ hv => hv.kind.2.2]

theorem filterMap_warning?_reorders {vs vs' : List (Verdict K)}
    (h : List.Forall₂ Verdict.Reorders vs vs') :
    vs'.filterMap (·.warning?) = vs.filterMap (·.warning?) := by
  induction h with
  | nil => rfl
  | cons hv _ ih => rw [List.filterMap_cons, List.filterMap_cons, hv.warning?, ih]

end

/-! ## Results keep their places -/

section

variable {K : Type} [Confidence K]

theorem Candidate.Reorders.precedes {a b a' b' : Candidate K} (ha : a.Reorders a')
    (hb : b.Reorders b') (tieBreak : TieBreak) :
    a.precedes tieBreak b = a'.precedes tieBreak b' := by
  rw [ha.others, hb.others]
  rfl

/-- Candidates are not ranked by their matches. -/
theorem rank_reorders (tieBreak : TieBreak) {cs cs' : List (Candidate K)}
    (h : List.Forall₂ Candidate.Reorders cs cs') :
    List.Forall₂ Candidate.Reorders (rank tieBreak cs) (rank tieBreak cs') := by
  refine forall₂_mapIdx (forall₂_mergeSort h fun a b a' b' ha hb => ha.precedes hb tieBreak) ?_
  intro i c c' hc
  exact ⟨hc.matching, by rw [hc.others]⟩

/-- Verdicts that are alike but for the order of matches make diagnoses that are. -/
theorem diagnosisOf_reorders (tieBreak : TieBreak) {selection : Selection K}
    {damages : List Damage} {rules other : List (Rule K)}
    (h : List.Forall₂ Verdict.Reorders (rules.map (·.verdict selection damages))
      (other.map (·.verdict selection damages))) :
    (diagnosisOf tieBreak selection rules damages).Reorders
      (diagnosisOf tieBreak selection other damages) where
  results := rank_reorders tieBreak (List.rel_filterMap (fun _ _ hv => hv.candidate?) h)
  warnings := filterMap_warning?_reorders h
  stats := Stats.ofVerdicts_reorders h

end

/-! ## Rules with their entries in another order -/

namespace Rule.Reorders

section

variable {K : Type} {rule other : Rule K} (h : rule.Reorders other)
include h

theorem isInert : other.isInert = rule.isInert := by
  unfold Rule.isInert
  rw [Bool.eq_iff_iff, List.isEmpty_iff, List.isEmpty_iff]
  exact ⟨fun hother => (hother ▸ h.entries).eq_nil, fun hrule => (hrule ▸ h.entries).nil_eq.symm⟩

theorem damage?_eq (damages : List Damage) : other.damage? damages = rule.damage? damages := by
  unfold damage?
  rw [h.damage, h.damageId]

end

section

variable {K : Type} [Confidence K] {rule other : Rule K} (h : rule.Reorders other)
  (selection : Selection K) (damages : List Damage)
include h

theorem matching : (rule.matching selection).Perm (other.matching selection) :=
  h.entries.filterMap _

theorem candidate {damage : Damage} {cf : K} :
    (rule.candidate damage (rule.matching selection) cf).Reorders
      (other.candidate damage (other.matching selection) cf) := by
  refine ⟨h.matching selection, ?_⟩
  simp only [Rule.candidate, h.id, h.entries.length_eq, (h.matching selection).length_eq]

/-- Which matches are in their ranges does not depend on their order. -/
theorem judge {config : Config}
    (hjudge : rule.judge config selection damages = .ok (rule.verdict selection damages)) :
    other.judge config selection damages = .ok (other.verdict selection damages) := by
  unfold Rule.judge at *
  cases hstrict : config.strictRanges with
  | false => simp
  | true =>
    have hnone : rule.outOfRange? selection = none := by
      cases hbad : rule.outOfRange? selection with
      | none => rfl
      | some bad => simp [hstrict, hbad] at hjudge
    have hother : other.outOfRange? selection = none := by
      unfold outOfRange? at *
      rw [List.find?_eq_none] at *
      exact fun m hm => hnone m ((h.matching selection).mem_iff.2 hm)
    simp [hother]

end

/-- In exact arithmetic a rule comes to the same end, however its entries are ordered. -/
theorem verdict {rule other : Rule ℚ} (h : rule.Reorders other) (selection : Selection ℚ)
    (damages : List Damage) :
    (rule.verdict selection damages).Reorders (other.verdict selection damages) := by
  have hcf : combineAll? ((other.matching selection).map (·.cfCombined)) =
      combineAll? ((rule.matching selection).map (·.cfCombined)) :=
    (combineAll?_perm ((h.matching selection).map _)).symm
  unfold Rule.verdict
  simp only [h.isInert, h.damage?_eq, hcf]
  split
  · exact .same _
  · cases combineAll? ((rule.matching selection).map (·.cfCombined)) with
    | none => exact .same _
    | some cf =>
      cases rule.damage? damages with
      | none =>
        rw [h.id, h.damageId]
        exact .same _
      | some damage => exact .candidate (h.candidate selection)

end Rule.Reorders

/-- In exact arithmetic certainties are accumulated in no order. What some of them come to is one
minus the product of what they leave to one, and rules with their entries in another order give the
same diagnosis but for the order of the matches in each result. -/
theorem accumulation_order_free : Accumulates combineAll? ∧
    ∀ (config : Config) (selection : Selection ℚ) (damages : List Damage)
      (rules other : List (Rule ℚ)), List.Forall₂ Rule.Reorders rules other →
      ∀ d, evaluate config selection rules damages = .ok d →
        ∃ d', evaluate config selection other damages = .ok d' ∧ d.Reorders d' := by
  refine ⟨accumulates_combineAll?, fun config selection damages rules other h d hd => ?_⟩
  obtain ⟨hstart, hjudge, rfl⟩ := evaluate_eq_ok_iff.1 hd
  have hrules : rules ≠ [] := by
    rintro rfl
    cases hd
  have hother : other ≠ [] := by
    rintro rfl
    exact hrules (List.forall₂_nil_right_iff.1 h)
  have hverdicts : List.Forall₂ Verdict.Reorders (rules.map (·.verdict selection damages))
      (other.map (·.verdict selection damages)) := by
    rw [List.forall₂_map_left_iff, List.forall₂_map_right_iff]
    exact h.imp fun _ _ hrule => hrule.verdict selection damages
  have hjudges := forall_mem_of_forall₂ h (fun _ _ hrule => hrule.judge selection damages) hjudge
  exact ⟨_, evaluate_of_forall (refusal?_of_ne_nil hstart hother) hjudges,
    diagnosisOf_reorders config.tieBreak hverdicts⟩

/-- Certainties out of range, and rules with their entries from the last one to the first one. -/
theorem accumulation_order_free_reversed :
    combineAll? [2, -1 / 2, 3] = combineAll? [(3 : ℚ), 2, -1 / 2] ∧
      (∃ cf : ℚ, combineAll? [1 / 2, 1 / 4] = some cf ∧ 0 ≤ cf ∧ cf ≤ 1 ∧
        ∀ x ∈ [1 / 2, 1 / 4], x ≤ cf) ∧
      List.Forall₂ Rule.Reorders exactRules
        (exactRules.map fun rule => { rule with entries := rule.entries.reverse }) ∧
      ∃ d d', evaluate .strict fullerSelection exactRules [⟨"K01", "Weak battery", "", ""⟩] =
          .ok d ∧
        evaluate .strict fullerSelection
            (exactRules.map fun rule => { rule with entries := rule.entries.reverse })
            [⟨"K01", "Weak battery", "", ""⟩] = .ok d' ∧
        d.Reorders d' := by
  obtain ⟨hfold, heval⟩ := accumulation_order_free
  have hperm : List.Perm [(2 : ℚ), -1 / 2, 3] [3, 2, -1 / 2] := by decide +kernel
  have hunit : ∀ x ∈ [(1 / 2 : ℚ), 1 / 4], 0 ≤ x ∧ x ≤ 1 := by decide +kernel
  have hreorders : List.Forall₂ Rule.Reorders exactRules
      (exactRules.map fun rule => { rule with entries := rule.entries.reverse }) := by
    rw [List.forall₂_map_right_iff, List.forall₂_same]
    exact fun rule _ => ⟨rfl, rfl, rfl, (List.reverse_perm _).symm⟩
  have huser : ∀ r ∈ fullerSelection, 0 ≤ r.cfUser ∧ r.cfUser ≤ 1 := by decide +kernel
  have hexpert : ∀ rule ∈ exactRules, ∀ entry ∈ rule.entries,
      0 ≤ entry.cfExpert ∧ entry.cfExpert ≤ 1 := by decide +kernel
  have hd := evaluate_of_unit (List.cons_ne_nil _ _) huser (List.cons_ne_nil _ _) hexpert .strict
    [⟨"K01", "Weak battery", "", ""⟩]
  obtain ⟨d', hd', hsame⟩ := heval _ _ _ _ _ hreorders _ hd
  exact ⟨hfold.perm _ _ hperm, hfold.unit _ (List.cons_ne_nil _ _) hunit, hreorders, _, d', hd,
    hd', hsame⟩

end CertaintyFactor
