import CertaintyFactor.Level
import CertaintyFactor.Recommendation
import CertaintyFactor.Proofs.Binary64.Order
import CertaintyFactor.Proofs.Evaluation.Ranking

/-!
# Scales agree with the ranking

A certainty is shown as a percentage, a level and a tier, and the best ranked one is turned into an
advice. The four are computed apart from one another, but none of them falls when the certainty
rises. So along a ranked list none of them rises, and the advice on the first result is the
strongest one that any result gives. A NaN, which is ranked with negative infinity, has the
percentage 0 and with it the weakest advice.
-/

set_option autoImplicit false

namespace CertaintyFactor

/-! ## Scales of steps -/

/-- Of the steps of a scale, strongest first, the first one that passes a weaker test is no
weaker. -/
theorem strength_find?_le {α : Type} {strength : α → Nat} {lowest : α}
    (hlowest : ∀ a, strength lowest ≤ strength a) {p q : α → Bool} {steps : List α}
    (hsorted : steps.Pairwise fun a b => strength b ≤ strength a)
    (hpq : ∀ a ∈ steps, p a → q a) :
    strength ((steps.find? p).getD lowest) ≤ strength ((steps.find? q).getD lowest) := by
  induction steps with
  | nil => exact Nat.le_refl _
  | cons a steps ih =>
    obtain ⟨hfirst, hrest⟩ := List.pairwise_cons.1 hsorted
    by_cases hq : q a
    · rw [List.find?_cons_of_pos hq, Option.getD_some]
      cases hp : (a :: steps).find? p with
      | none => exact hlowest a
      | some b =>
        rcases List.mem_cons.1 (List.mem_of_find?_eq_some hp) with rfl | hb
        · exact Nat.le_refl _
        · exact hfirst b hb
    · have hp : ¬ p a := fun hp => hq (hpq a List.mem_cons_self hp)
      rw [List.find?_cons_of_neg hp, List.find?_cons_of_neg hq]
      exact ih hrest fun b hb => hpq b (List.mem_cons_of_mem a hb)

namespace Level

/-- The place of a level on its scale. -/
def strength : Level → Nat
  | notConfident => 0
  | lowConfidence => 1
  | somewhatConfident => 2
  | fairlyConfident => 3
  | confident => 4
  | veryConfident => 5

theorem ofCertainty_mono {x y : Binary64} (h : x.le y) :
    (ofCertainty x).strength ≤ (ofCertainty y).strength := by
  have hlowest : ∀ level : Level, notConfident.strength ≤ level.strength :=
    fun _ => Nat.zero_le _
  refine strength_find?_le hlowest (by decide) ?_
  intro level _ hreached
  exact Binary64.le_trans hreached (Binary64.mul_hundred_mono h)

theorem threshold_mono {a b : Level} (h : a.strength ≤ b.strength) :
    a.threshold.le b.threshold := by
  cases a with
  | notConfident => cases b <;> exact Binary64.negativeInfinity_le rfl
  | _ =>
    cases b with
    | notConfident => exact absurd h (by decide)
    | _ => first | exact Binary64.ofNat_mono (by decide) | exact absurd h (by decide)

/-- Past the lowest level, a certainty of a level or of one above reaches the bound of the level. -/
theorem threshold_le {level : Level} (hpos : 0 < level.strength) {x : Binary64}
    (h : level.strength ≤ (ofCertainty x).strength) : level.threshold.le (x * 100) := by
  unfold ofCertainty at h
  cases hfind : all.reverse.find? fun level => level.threshold.le (x * 100) with
  | none =>
    rw [hfind] at h
    exact absurd h (Nat.not_le.2 hpos)
  | some found =>
    rw [hfind] at h
    have hreached := List.find?_some hfind
    exact Binary64.le_trans (threshold_mono h) hreached

/-- A level promises a percentage: its bound, as it would be shown. -/
theorem round_threshold_le_percent {level : Level} (hpos : 0 < level.strength) {x : Binary64}
    (h : level.strength ≤ (ofCertainty x).strength) : level.threshold.round ≤ x.percent :=
  Binary64.round_mono (threshold_le hpos h)

theorem round_thresholds :
    fairlyConfident.threshold.round = 70 ∧ lowConfidence.threshold.round = 50 :=
  ⟨Binary64.round_ofNat (by decide), Binary64.round_ofNat (by decide)⟩

end Level

namespace Tier

/-- The place of a tier on its scale, from the lowest one. -/
def strength : Tier → Nat
  | tier4 => 0
  | tier3 => 1
  | tier2 => 2
  | tier1 => 3

theorem ofCertainty_mono {x y : Binary64} (h : x.le y) :
    (ofCertainty x).strength ≤ (ofCertainty y).strength := by
  have hlowest : ∀ tier : Tier, tier4.strength ≤ tier.strength :=
    fun _ => Nat.zero_le _
  refine strength_find?_le hlowest (by decide) ?_
  intro tier _ hreached
  exact Binary64.le_trans hreached (Binary64.mul_hundred_mono h)

end Tier

/-! ## Advice -/

namespace Advice

/-- How firmly an advice calls for acting on a candidate. -/
def strength : Advice → Nat
  | checkOtherSymptoms => 0
  | inspect => 1
  | repair => 2

theorem ofPercentage_mono {p q : Int} (h : p ≤ q) :
    (ofPercentage p).strength ≤ (ofPercentage q).strength := by
  unfold ofPercentage
  by_cases hrepair : repairFrom ≤ p
  · rw [if_pos hrepair, if_pos (Int.le_trans hrepair h)]
  · rw [if_neg hrepair]
    by_cases hinspect : inspectFrom ≤ p
    · rw [if_pos hinspect, if_pos (Int.le_trans hinspect h)]
      split <;> decide
    · rw [if_neg hinspect]
      exact Nat.zero_le _

/-- A percentage below zero gives no weaker advice than zero does. -/
theorem ofPercentage_max_zero (p : Int) : ofPercentage (max 0 p) = ofPercentage p := by
  rcases Int.le_total 0 p with hpos | hneg
  · rw [Int.max_eq_right hpos]
  · have hrepair : ¬ repairFrom ≤ p := by
      unfold repairFrom
      omega
    have hinspect : ¬ inspectFrom ≤ p := by
      unfold inspectFrom
      omega
    rw [Int.max_eq_left hneg, ofPercentage, ofPercentage, if_neg hrepair, if_neg hinspect]
    rfl

end Advice

/-! ## Along the ranking -/

/-- A number that is not ranked above another one has no greater percentage, except that a NaN has
the percentage 0. -/
theorem Binary64.percent_le_of_orderKey_le {x y : Binary64} (h : x.orderKey ≤ y.orderKey) :
    x.percent ≤ max 0 y.percent := by
  cases x with
  | nan => exact Int.le_max_left 0 _
  | signed s m =>
    have hle : (signed s m).le y.sortKey := by
      apply le_of_orderKey_le rfl (isNaN_sortKey y)
      rwa [orderKey_sortKey]
    have hpercent := percent_mono hle
    cases y with
    | nan =>
      have hlowest : negativeInfinity.percent ≤ (ofNat 0).percent :=
        percent_mono (negativeInfinity_le rfl)
      rw [percent_ofNat (by decide)] at hlowest
      exact Int.le_trans hpercent (Int.le_trans hlowest (Int.le_max_left 0 _))
    | signed t n => exact Int.le_trans hpercent (Int.le_max_right 0 _)

theorem pairwise_rank (tieBreak : TieBreak) (cs : List (Candidate Binary64)) :
    (rank tieBreak cs).Pairwise fun a b => b.cf.orderKey ≤ a.cf.orderKey := by
  have hsorted := List.pairwise_mergeSort (Candidate.precedes_trans tieBreak)
    (Candidate.precedes_total tieBreak) cs
  have hkeys : (cs.mergeSort (Candidate.precedes tieBreak)).Pairwise
      fun a b => b.cf.orderKey ≤ a.cf.orderKey := by
    refine hsorted.imp fun {a b} h => ?_
    rcases Candidate.precedes_iff.1 h with hlt | ⟨heq, -⟩
    · exact Int.le_of_lt hlt
    · exact Int.le_of_eq heq.symm
  -- The places in the ranking have no part in the comparison.
  have hunranked : ((rank tieBreak cs).map Candidate.unranked).Pairwise
      fun a b => b.cf.orderKey ≤ a.cf.orderKey := by
    rw [map_unranked_rank, List.pairwise_map]
    exact hkeys
  exact List.pairwise_map.1 hunranked

section

variable {config : Config} {selection : Selection Binary64} {rules : List (Rule Binary64)}
  {damages : List Damage} {d : Diagnosis Binary64}

theorem pairwise_results (h : evaluate config selection rules damages = .ok d) :
    d.results.Pairwise fun a b => b.cf.orderKey ≤ a.cf.orderKey := by
  rw [evaluate_eq_ok h, results_diagnosisOf]
  exact pairwise_rank config.tieBreak _

theorem percentage_of_mem_results (h : evaluate config selection rules damages = .ok d)
    {r : Candidate Binary64} (hr : r ∈ d.results) : r.percentage = r.cf.percent := by
  obtain ⟨rule, -, found, hfound, place, -, rfl⟩ := exists_concludes_of_mem h hr
  exact hfound.percentage

/-- No result calls for firmer advice than the first one. -/
theorem exists_recommendation (h : evaluate config selection rules damages = .ok d)
    (hresults : d.results ≠ []) : ∃ advised, Recommendation.ofResults? d.results = some advised ∧
      (∃ r ∈ d.results, advised.advice = .ofPercentage r.percentage) ∧
      ∀ r ∈ d.results, (Advice.ofPercentage r.percentage).strength ≤ advised.advice.strength := by
  cases hsplit : d.results with
  | nil => exact absurd hsplit hresults
  | cons top rest =>
    refine ⟨_, rfl, ⟨top, List.mem_cons_self, rfl⟩, ?_⟩
    intro r hr
    have hkey : r.cf.orderKey ≤ top.cf.orderKey := by
      have hsorted := pairwise_results h
      rw [hsplit] at hsorted
      rcases List.mem_cons.1 hr with rfl | hrest
      · exact Int.le_refl _
      · exact List.rel_of_pairwise_cons hsorted hrest
    have hpercent := Binary64.percent_le_of_orderKey_le hkey
    rw [← hsplit] at hr
    have htop : top ∈ d.results := by
      rw [hsplit]
      exact List.mem_cons_self
    rw [← percentage_of_mem_results h hr, ← percentage_of_mem_results h htop] at hpercent
    have hadvice := Advice.ofPercentage_mono hpercent
    rwa [Advice.ofPercentage_max_zero] at hadvice

/-- What is shown of the results of an evaluation agrees with their ranking. Past NaN, neither the
percentage nor the level nor the tier rises from a result to a later one. A level promises its
percentage. And the advice on the results is the firmest that the percentage of any of them calls
for. -/
theorem evaluate_results_displayed (h : evaluate config selection rules damages = .ok d) :
    (d.results.Pairwise fun a b => a.cf.isNaN = false → b.cf.isNaN = false →
      b.percentage ≤ a.percentage ∧
      (Level.ofCertainty b.cf).strength ≤ (Level.ofCertainty a.cf).strength ∧
      (Tier.ofCertainty b.cf).strength ≤ (Tier.ofCertainty a.cf).strength) ∧
    (∀ r ∈ d.results,
      (Level.fairlyConfident.strength ≤ (Level.ofCertainty r.cf).strength → 70 ≤ r.percentage) ∧
      (Level.lowConfidence.strength ≤ (Level.ofCertainty r.cf).strength → 50 ≤ r.percentage)) ∧
    (d.results ≠ [] → ∃ advised, Recommendation.ofResults? d.results = some advised ∧
      (∃ r ∈ d.results, advised.advice = .ofPercentage r.percentage) ∧
      ∀ r ∈ d.results,
        (Advice.ofPercentage r.percentage).strength ≤ advised.advice.strength) := by
  refine ⟨?_, fun r hr => ?_, exists_recommendation h⟩
  · refine (pairwise_results h).imp_of_mem fun {a b} ha hb hkey hna hnb => ?_
    have hle := Binary64.le_of_orderKey_le hnb hna hkey
    rw [percentage_of_mem_results h ha, percentage_of_mem_results h hb]
    exact ⟨Binary64.percent_mono hle, Level.ofCertainty_mono hle, Tier.ofCertainty_mono hle⟩
  · rw [percentage_of_mem_results h hr]
    obtain ⟨hseventy, hfifty⟩ := Level.round_thresholds
    rw [← hseventy, ← hfifty]
    exact ⟨Level.round_threshold_le_percent (by decide),
      Level.round_threshold_le_percent (by decide)⟩

end

/-- A symptom the user is sure of, and one whose certainty is no number. -/
def gradedSelection : Selection Binary64 :=
  [⟨"G01", 1⟩, ⟨"G02", .nan⟩]

/-- Rules whose certainties are shown in four tiers, the last of them no number. -/
def gradedRules : List (Rule Binary64) :=
  [{ id := "R1", damageId := "K01", entries := [⟨"G01", 0.95, none⟩] },
    { id := "R2", damageId := "K02", entries := [⟨"G01", 0.72, none⟩] },
    { id := "R3", damageId := "K03", entries := [⟨"G01", 0.4, none⟩] },
    { id := "R4", damageId := "K04", entries := [⟨"G02", 1, none⟩] }]

def gradedDamages : List Damage :=
  [⟨"K01", "Fouled spark plug", "", ""⟩, ⟨"K02", "Dirty carburettor", "", ""⟩,
    ⟨"K03", "Weak battery", "", ""⟩, ⟨"K04", "Worn chain", "", ""⟩]

theorem evaluate_results_displayed_graded :
    ∃ d, evaluate {} gradedSelection gradedRules gradedDamages = .ok d ∧
      d.results.map (fun r => (r.percentage, Level.ofCertainty r.cf, Tier.ofCertainty r.cf)) =
        [(95, .veryConfident, .tier1), (72, .fairlyConfident, .tier2),
          (40, .notConfident, .tier3), (0, .notConfident, .tier4)] ∧
      (d.results.Pairwise fun a b => a.cf.isNaN = false → b.cf.isNaN = false →
        b.percentage ≤ a.percentage ∧
        (Level.ofCertainty b.cf).strength ≤ (Level.ofCertainty a.cf).strength ∧
        (Tier.ofCertainty b.cf).strength ≤ (Tier.ofCertainty a.cf).strength) ∧
      (∀ r ∈ d.results,
        (Level.fairlyConfident.strength ≤ (Level.ofCertainty r.cf).strength →
          70 ≤ r.percentage) ∧
        (Level.lowConfidence.strength ≤ (Level.ofCertainty r.cf).strength →
          50 ≤ r.percentage)) ∧
      (d.results ≠ [] → ∃ advised, Recommendation.ofResults? d.results = some advised ∧
        (∃ r ∈ d.results, advised.advice = .ofPercentage r.percentage) ∧
        ∀ r ∈ d.results,
          (Advice.ofPercentage r.percentage).strength ≤ advised.advice.strength) := by
  have hlenient : ({} : Config).strictRanges = false := rfl
  have hselection : gradedSelection ≠ [] := nofun
  have hrules : gradedRules ≠ [] := nofun
  have h := evaluate_lenient hlenient hselection hrules gradedDamages
  refine ⟨_, h, ?_, evaluate_results_displayed h⟩
  rw [results_diagnosisOf, rank_of_pairwise (by decide +kernel)]
  decide +kernel

end CertaintyFactor
