import CertaintyFactor.Proofs.Certainty.Unit
import CertaintyFactor.Proofs.Evaluation.Consistent
import CertaintyFactor.Proofs.Explanation

/-!
# Certainties of an evaluation stay in the unit interval

Where users and experts are certain in `[0, 1]`, so is everything that is computed from them in
binary64 arithmetic: the products, the running value of a combination with the two values it passes
on the way, and the result. The running value never falls from one combination to the next.
-/

set_option autoImplicit false

namespace CertaintyFactor

/-! ## Calculations -/

namespace Step

/-- The values that a step reads and computes, the ones on the way included. -/
def values : Step Binary64 → List Binary64
  | product _ evidence => [evidence.cfExpert, evidence.cfUser, evidence.cfCombined]
  | combination _ running incoming combined =>
    [running, incoming, 1 - running, incoming * (1 - running), combined]

/-- The running value that a combination comes to; a product does not change it. -/
def combined? : Step Binary64 → Option Binary64
  | product .. => none
  | combination _ _ _ combined => some combined

end Step

/-- The certainties of a match are in the unit interval. -/
structure Match.InUnit (m : Match Binary64) : Prop where
  cfExpert : m.cfExpert.Within 0 1
  cfUser : m.cfUser.Within 0 1
  cfCombined : m.cfCombined.Within 0 1

section

variable {matching : List (Match Binary64)}

theorem exists_of_mem_productSteps {number : Nat} {step : Step Binary64}
    (h : step ∈ productSteps number matching) : ∃ n, ∃ m ∈ matching, step = .product n m := by
  induction matching generalizing number with
  | nil => cases h
  | cons m rest ih =>
    rcases List.mem_cons.1 h with rfl | h
    · exact ⟨number, m, List.mem_cons_self, rfl⟩
    · obtain ⟨n, m', hm', hstep⟩ := ih h
      exact ⟨n, m', List.mem_cons_of_mem m hm', hstep⟩

theorem filterMap_combined?_productSteps (number : Nat) (matching : List (Match Binary64)) :
    (productSteps number matching).filterMap Step.combined? = [] := by
  rw [List.filterMap_eq_nil_iff]
  intro step hstep
  obtain ⟨n, m, -, rfl⟩ := exists_of_mem_productSteps hstep
  rfl

theorem combinationSteps_within {running : Binary64} (hrunning : running.Within 0 1)
    (h : ∀ m ∈ matching, m.InUnit) {number : Nat} {step : Step Binary64}
    (hstep : step ∈ combinationSteps number running matching) :
    ∀ x ∈ step.values, x.Within 0 1 := by
  induction matching generalizing number running with
  | nil => cases hstep
  | cons m rest ih =>
    obtain ⟨hm, hrest⟩ := List.forall_mem_cons.1 h
    have hcombined := (Binary64.combine_within hrunning hm.cfCombined).1
    rcases List.mem_cons.1 hstep with rfl | hstep
    · have hleft := Binary64.one_sub_within hrunning
      have hincrease := Binary64.mul_within hm.cfCombined hleft
      simp [Step.values, hrunning, hm.cfCombined, hleft, hincrease, hcombined]
    · exact ih hcombined hrest hstep

/-- No combination takes the running value below what it was at any time before. -/
theorem pairwise_combinationSteps {running : Binary64} (hrunning : running.Within 0 1)
    (h : ∀ m ∈ matching, m.InUnit) (number : Nat) :
    (running :: (combinationSteps number running matching).filterMap Step.combined?).Pairwise
      fun a b => a.le b := by
  induction matching generalizing number running with
  | nil => exact List.pairwise_singleton _ _
  | cons m rest ih =>
    obtain ⟨hm, hrest⟩ := List.forall_mem_cons.1 h
    obtain ⟨hcombined, hle⟩ := Binary64.combine_within hrunning hm.cfCombined
    have hlater := ih hcombined hrest (number + 1)
    refine List.pairwise_cons.2 ⟨fun x hx => ?_, hlater⟩
    rcases List.mem_cons.1 hx with rfl | hx
    · exact hle
    · exact Binary64.le_trans hle (List.rel_of_pairwise_cons hlater hx)

theorem steps_within (h : ∀ m ∈ matching, m.InUnit) {step : Step Binary64}
    (hstep : step ∈ steps matching) : ∀ x ∈ step.values, x.Within 0 1 := by
  rcases List.mem_append.1 hstep with hproduct | hcombination
  · obtain ⟨n, m, hm, rfl⟩ := exists_of_mem_productSteps hproduct
    obtain ⟨hexpert, huser, hcombined⟩ := h m hm
    simp [Step.values, hexpert, huser, hcombined]
  · cases matching with
    | nil => cases hcombination
    | cons first rest =>
      obtain ⟨hfirst, hrest⟩ := List.forall_mem_cons.1 h
      exact combinationSteps_within hfirst.cfCombined hrest hcombination

theorem pairwise_steps {first : Match Binary64} (h : ∀ m ∈ first :: matching, m.InUnit) :
    (first.cfCombined :: (steps (first :: matching)).filterMap Step.combined?).Pairwise
      fun a b => a.le b := by
  obtain ⟨hfirst, hrest⟩ := List.forall_mem_cons.1 h
  rw [steps, List.filterMap_append, filterMap_combined?_productSteps, List.nil_append]
  exact pairwise_combinationSteps hfirst.cfCombined hrest _

/-- The certainty of the first matches, whatever their number. -/
theorem certaintyOf_within (h : ∀ m ∈ matching, m.InUnit) {k : Nat} (hk : k < matching.length) :
    ∃ running, certaintyOf matching (k + 1) = some running ∧ running.Within 0 1 := by
  induction k with
  | zero =>
    have hm := h _ (List.getElem_mem hk)
    refine ⟨matching[0].cfCombined, ?_, hm.cfCombined⟩
    rw [certaintyOf_one, List.head?_eq_getElem?, List.getElem?_eq_getElem hk]
    rfl
  | succ k ih =>
    obtain ⟨running, hrunning, hwithin⟩ := ih (Nat.lt_of_succ_lt hk)
    have hm := h _ (List.getElem_mem hk)
    exact ⟨_, certaintyOf_succ hrunning (List.getElem?_eq_getElem hk),
      (Binary64.combine_within hwithin hm.cfCombined).1⟩

end

/-! ## Evaluations -/

section

variable {config : Config} {selection : Selection Binary64} {rules : List (Rule Binary64)}
  {damages : List Damage} {d : Diagnosis Binary64}

theorem Match.inUnit_of_weighs {m : Match Binary64} {entry : Rule.Entry Binary64}
    (h : m.Weighs selection entry) (huser : ∀ r ∈ selection, r.cfUser.Within 0 1)
    (hexpert : entry.cfExpert.Within 0 1) : m.InUnit := by
  have hreported : m.cfUser.Within 0 1 := by
    obtain ⟨before, after, hsplit, -⟩ := h.cfUser
    refine huser ⟨entry.symptomId, m.cfUser⟩ ?_
    rw [hsplit]
    exact List.mem_append_right before List.mem_cons_self
  refine ⟨?_, hreported, ?_⟩
  · rwa [h.cfExpert]
  · rw [h.cfCombined]
    exact Binary64.mul_within hexpert hreported

/-- Where users and experts are certain in the unit interval, so is the evaluation at every point,
and its running value never falls. -/
theorem evaluate_results_within (h : evaluate config selection rules damages = .ok d)
    (huser : ∀ r ∈ selection, r.cfUser.Within 0 1)
    (hexpert : ∀ rule ∈ rules, ∀ entry ∈ rule.entries, entry.cfExpert.Within 0 1)
    {r : Candidate Binary64} (hr : r ∈ d.results) :
    r.cf.Within 0 1 ∧ 0 ≤ r.percentage ∧ r.percentage ≤ 100 ∧
      (∀ k, 1 ≤ k → k ≤ r.matched →
        ∃ running, certaintyOf r.matching k = some running ∧ running.Within 0 1) ∧
      (∀ step ∈ r.steps, ∀ x ∈ step.values, x.Within 0 1) ∧
      ∃ first rest, r.matching = first :: rest ∧
        (first.cfCombined :: r.steps.filterMap Step.combined?).Pairwise fun a b => a.le b := by
  obtain ⟨rule, hrule, found, hfound, place, -, rfl⟩ := exists_concludes_of_mem h hr
  have hunit : ∀ m ∈ found.matching, m.InUnit := by
    intro m hm
    obtain ⟨entry, hentry, hweighs⟩ := exists_weighs_of_mem hfound.matching hm
    exact Match.inUnit_of_weighs hweighs huser
      (hexpert rule hrule entry (List.mem_of_mem_filter hentry))
  have hcertainty : ∀ k, 1 ≤ k → k ≤ found.matched →
      ∃ running, certaintyOf found.matching k = some running ∧ running.Within 0 1 := by
    intro k hk hle
    obtain ⟨k, rfl⟩ := Nat.exists_eq_add_of_le' hk
    rw [hfound.matched] at hle
    exact certaintyOf_within hunit hle
  have hcf : found.cf.Within 0 1 := by
    obtain ⟨first, rest, hvalues, hcf⟩ := hfound.cf
    obtain ⟨running, hrunning, hwithin⟩ :=
      hcertainty found.matched hfound.matched_pos (Nat.le_refl _)
    rw [hfound.matched, certaintyOf_length, hvalues] at hrunning
    obtain rfl : rest.foldl combine first = running := Option.some.inj hrunning
    rwa [hcf]
  have hpercent := Binary64.percent_within hcf
  have hpercentage : found.percentage = found.cf.percent := hfound.percentage
  rw [← hpercentage] at hpercent
  refine ⟨hcf, hpercent.1, hpercent.2, hcertainty, fun step hstep => steps_within hunit hstep, ?_⟩
  cases hmatching : found.matching with
  | nil =>
    have hpos := hfound.matched_pos
    rw [hfound.matched, hmatching] at hpos
    exact absurd hpos (by decide)
  | cons first rest =>
    rw [hmatching] at hunit
    exact ⟨first, rest, rfl, pairwise_steps hunit⟩

end

/-- Two symptoms, one of them certain. -/
def sureSelection : Selection Binary64 :=
  [⟨"G01", 0.7⟩, ⟨"G02", 1⟩]

/-- A rule whose last evidence comes when the running value is one already. -/
def sureRule : Rule Binary64 where
  id := "R1"
  damageId := "K01"
  entries := [⟨"G01", 0.9, none⟩, ⟨"G02", 1, none⟩, ⟨"G01", 0.6, none⟩]

theorem evaluate_results_within_sure :
    let d := diagnosisOf .damageId sureSelection [sureRule] [⟨"K01", "Weak battery", "", ""⟩]
    evaluate {} sureSelection [sureRule] [⟨"K01", "Weak battery", "", ""⟩] = .ok d ∧
      (∀ r ∈ sureSelection, r.cfUser.Within 0 1) ∧
      (∀ rule ∈ [sureRule], ∀ entry ∈ rule.entries, entry.cfExpert.Within 0 1) ∧
      ∃ r ∈ d.results, r.matched = 3 ∧ r.cf.Within 0 1 ∧ r.percentage ≤ 100 ∧
        ∃ first rest, r.matching = first :: rest ∧
          (first.cfCombined :: r.steps.filterMap Step.combined?).Pairwise fun a b => a.le b := by
  intro d
  have hselection : sureSelection ≠ [] := List.cons_ne_nil _ _
  have hrules : [sureRule] ≠ [] := List.cons_ne_nil _ _
  have hd : evaluate {} sureSelection [sureRule] [⟨"K01", "Weak battery", "", ""⟩] = .ok d :=
    evaluate_lenient rfl hselection hrules _
  have huser : ∀ r ∈ sureSelection, r.cfUser.Within 0 1 := by decide +kernel
  have hexpert : ∀ rule ∈ [sureRule], ∀ entry ∈ rule.entries, entry.cfExpert.Within 0 1 := by
    decide +kernel
  have hone : (candidates sureSelection [⟨"K01", "Weak battery", "", ""⟩] [sureRule]).length = 1 :=
    by decide +kernel
  have hmatched : ∀ c ∈ candidates sureSelection [⟨"K01", "Weak battery", "", ""⟩] [sureRule],
      c.matched = 3 := by decide +kernel
  obtain ⟨c, hc⟩ := List.length_eq_one_iff.1 hone
  have hmem : { c with rank := 1 } ∈ d.results := by
    rw [results_diagnosisOf, hc]
    simp [rank]
  obtain ⟨hcf, -, hpercent, -, -, hrunning⟩ := evaluate_results_within hd huser hexpert hmem
  refine ⟨hd, huser, hexpert, _, hmem, hmatched c ?_, hcf, hpercent, hrunning⟩
  rw [hc]
  exact List.mem_singleton_self c

end CertaintyFactor
