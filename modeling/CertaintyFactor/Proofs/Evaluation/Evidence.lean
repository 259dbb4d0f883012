import CertaintyFactor.Proofs.Certainty.Exact
import CertaintyFactor.Proofs.Evaluation.Consistent

/-!
# More evidence never weakens a diagnosis

In exact arithmetic a candidate is as certain as all entries of its rule taken together, where an
entry that is not reported weighs nothing. A selection that reports more symptoms, or is more
certain of some, takes no weight from any entry, so it takes none from any rule. The matches it adds
may stand anywhere between the others.
-/

set_option autoImplicit false

namespace CertaintyFactor

/-! ## Results by the places of the rules -/

section

variable {K : Type} [Confidence K]

/-- `found` lists place by place what the rules come to, and its candidates are the results of the
diagnosis. -/
structure Diagnosis.Traces (selection : Selection K) (damages : List Damage) (rules : List (Rule K))
    (d : Diagnosis K) (found : List (Option (Candidate K))) : Prop where
  results : (d.results.map Candidate.unranked).Perm (found.filterMap id)
  rules : List.Forall₂ (fun c? rule =>
    (∀ c, c? = some c → c.Concludes selection damages rule) ∧
      (c? = none → ¬ rule.Yields selection damages)) found rules

theorem traces_of_evaluate {config : Config} {selection : Selection K} {rules : List (Rule K)}
    {damages : List Damage} {d : Diagnosis K}
    (h : evaluate config selection rules damages = .ok d) :
    d.Traces selection damages rules
      (rules.map fun rule => (rule.verdict selection damages).candidate?) := by
  constructor
  · have hperm := List.mergeSort_perm (candidates selection damages rules)
      (Candidate.precedes config.tieBreak)
    have hunranked := hperm.map Candidate.unranked
    rw [map_unranked_candidates, ← map_unranked_rank, ← results_diagnosisOf, ← evaluate_eq_ok h]
      at hunranked
    rwa [List.filterMap_map]
  · rw [List.forall₂_map_left_iff, List.forall₂_same]
    intro rule _
    refine ⟨fun c hc => Rule.concludes_of_verdict hc, fun hnone => ?_⟩
    rw [← Rule.isSome_candidate?_iff, hnone]
    exact Bool.false_ne_true

end

/-! ## Weights -/

/-- What an entry counts for: nothing when it is not reported. -/
def Rule.Entry.weight (selection : Selection ℚ) (entry : Rule.Entry ℚ) : ℚ :=
  match selection.certainty? entry.symptomId with
  | some cfUser => product entry.cfExpert cfUser
  | none => 0

section

variable {selection : Selection ℚ} {damages : List Damage}

/-- Entries that are not reported leave no trace in the certainty of the matches. -/
theorem together_matching {found : List (Match ℚ)} {entries : List (Rule.Entry ℚ)}
    (h : List.Forall₂ (Match.Weighs selection) found
      (entries.filter fun e => selection.Reports e.symptomId)) :
    together (found.map (·.cfCombined)) = together (entries.map (Rule.Entry.weight selection)) := by
  induction entries generalizing found with
  | nil =>
    cases h
    rfl
  | cons e entries ih =>
    by_cases hreported : selection.Reports e.symptomId
    · rw [List.filter_cons_of_pos (by simpa using hreported)] at h
      cases h with
      | @cons m _ rest _ hweighs hrest =>
        have hweight : e.weight selection = m.cfCombined := by
          rw [Rule.Entry.weight, Selection.certainty?_eq_some_iff.2 hweighs.cfUser,
            hweighs.cfCombined]
        rw [List.map_cons, List.map_cons, together_cons, together_cons, ih hrest, hweight]
    · rw [List.filter_cons_of_neg (by simpa using hreported)] at h
      have hweight : e.weight selection = 0 := by
        have hnone : selection.certainty? e.symptomId = none := by
          rw [← Option.not_isSome_iff_eq_none, Selection.isSome_certainty?_iff]
          exact hreported
        rw [Rule.Entry.weight, hnone]
      rw [ih h, List.map_cons, hweight, together_zero_cons]

/-- A candidate is as certain as the entries of its rule taken together. -/
theorem Candidate.Concludes.cf_eq {c : Candidate ℚ} {rule : Rule ℚ}
    (h : c.Concludes selection damages rule) :
    c.cf = together (rule.entries.map (Rule.Entry.weight selection)) := by
  obtain ⟨first, rest, hvalues, hcf⟩ := h.cf
  rw [← together_matching h.matching, hvalues, hcf]
  exact foldl_combine first rest

end

/-! ## Selections that say more -/

theorem Selection.mem_of_firstReport {selection : Selection ℚ} {id : String} {cf : ℚ}
    (h : selection.FirstReport id cf) : ⟨id, cf⟩ ∈ selection := by
  obtain ⟨before, after, rfl, -⟩ := h
  exact List.mem_append_right before List.mem_cons_self

theorem Rule.Entry.weight_le_one {selection : Selection ℚ}
    (huser : ∀ r ∈ selection, 0 ≤ r.cfUser ∧ r.cfUser ≤ 1) {entry : Rule.Entry ℚ}
    (hexpert : entry.cfExpert ≤ 1) : entry.weight selection ≤ 1 := by
  unfold weight product
  cases hcf : selection.certainty? entry.symptomId with
  | some cf =>
    obtain ⟨hpos, hone⟩ :=
      huser _ (Selection.mem_of_firstReport (Selection.certainty?_eq_some_iff.1 hcf))
    exact mul_le_one₀ hexpert hpos hone
  | none => exact zero_le_one

/-- Each symptom of `A` is reported in `B`, where its first report is at least as certain. -/
def Selection.AtMost (A B : Selection ℚ) : Prop :=
  ∀ id cf, A.FirstReport id cf → ∃ cf', B.FirstReport id cf' ∧ cf ≤ cf'

namespace Selection.AtMost

variable {A B : Selection ℚ}

theorem reports (h : A.AtMost B) {id : String} (hA : A.Reports id) : B.Reports id := by
  obtain ⟨cf, hcf⟩ := Option.isSome_iff_exists.1 (isSome_certainty?_iff.2 hA)
  obtain ⟨cf', hcf', -⟩ := h id cf (certainty?_eq_some_iff.1 hcf)
  rw [← isSome_certainty?_iff, certainty?_eq_some_iff.2 hcf']
  rfl

theorem weight_le (h : A.AtMost B) (hB : ∀ r ∈ B, 0 ≤ r.cfUser) {entry : Rule.Entry ℚ}
    (hentry : 0 ≤ entry.cfExpert) : entry.weight A ≤ entry.weight B := by
  unfold Rule.Entry.weight product
  cases hcfA : A.certainty? entry.symptomId with
  | some cf =>
    obtain ⟨cf', hcf', hle⟩ := h _ cf (certainty?_eq_some_iff.1 hcfA)
    rw [certainty?_eq_some_iff.2 hcf']
    exact mul_le_mul_of_nonneg_left hle hentry
  | none =>
    cases hcfB : B.certainty? entry.symptomId with
    | some cf' =>
      have hcf' : 0 ≤ cf' := hB _ (mem_of_firstReport (certainty?_eq_some_iff.1 hcfB))
      exact mul_nonneg hentry hcf'
    | none => exact le_refl 0

/-- A selection of some reports has none that says more and reports nothing. -/
theorem ne_nil (h : A.AtMost B) (hA : A ≠ []) : B ≠ [] := by
  obtain ⟨r, rest, rfl⟩ := List.exists_cons_of_ne_nil hA
  obtain ⟨r', hr', -⟩ := h.reports ⟨r, List.mem_cons_self, rfl⟩
  exact List.ne_nil_of_mem hr'

theorem yields (h : A.AtMost B) {damages : List Damage} {rule : Rule ℚ}
    (hA : rule.Yields A damages) : rule.Yields B damages := by
  obtain ⟨⟨entry, hentry, hreported⟩, hresolves⟩ := hA
  exact ⟨⟨entry, hentry, h.reports hreported⟩, hresolves⟩

end Selection.AtMost

/-- `c'` is as certain as `c` at least, also as it is shown, and from as many matches. -/
structure Candidate.AtMost (c c' : Candidate ℚ) : Prop where
  cf : c.cf ≤ c'.cf
  matched : c.matched ≤ c'.matched
  percentage : c.percentage ≤ c'.percentage

section

variable {A B : Selection ℚ} {damages : List Damage}

/-- From a selection that says more a rule concludes no less. -/
theorem Selection.AtMost.concludes (h : A.AtMost B)
    (hB : ∀ r ∈ B, 0 ≤ r.cfUser ∧ r.cfUser ≤ 1) {rule : Rule ℚ}
    (hexpert : ∀ entry ∈ rule.entries, 0 ≤ entry.cfExpert ∧ entry.cfExpert ≤ 1)
    {c c' : Candidate ℚ} (hc : c.Concludes A damages rule) (hc' : c'.Concludes B damages rule) :
    c.AtMost c' := by
  have hcf : c.cf ≤ c'.cf := by
    rw [hc.cf_eq, hc'.cf_eq]
    apply together_mono
    · intro entry hentry
      exact h.weight_le (fun r hr => (hB r hr).1) (hexpert entry hentry).1
    · intro entry hentry
      exact Rule.Entry.weight_le_one hB (hexpert entry hentry).2
  refine ⟨hcf, ?_, ?_⟩
  · rw [hc.matched, hc'.matched, hc.matching.length_eq, hc'.matching.length_eq,
      ← List.countP_eq_length_filter, ← List.countP_eq_length_filter]
    apply List.countP_mono_left
    intro entry _ hreported
    simpa using h.reports (by simpa using hreported)
  · rw [hc.percentage, hc'.percentage]
    exact percent_rat_mono hcf

/-- In exact arithmetic an evaluation over the unit interval succeeds, whether or not it checks
ranges. -/
theorem evaluate_of_unit {selection : Selection ℚ} (hselection : selection ≠ [])
    (huser : ∀ r ∈ selection, 0 ≤ r.cfUser ∧ r.cfUser ≤ 1) {rules : List (Rule ℚ)}
    (hrules : rules ≠ [])
    (hexpert : ∀ rule ∈ rules, ∀ entry ∈ rule.entries, 0 ≤ entry.cfExpert ∧ entry.cfExpert ≤ 1)
    (config : Config) (damages : List Damage) :
    evaluate config selection rules damages =
      .ok (diagnosisOf config.tieBreak selection rules damages) := by
  have hstart : refusal? config selection rules = none := by
    refine refusal?_eq_none hselection hrules fun _ r hr => ?_
    obtain ⟨hzero, hone⟩ := huser r hr
    simp [Confidence.validUser, hzero, hone]
  refine evaluate_of_forall hstart fun rule hrule => ?_
  refine Rule.judge_of_validExpert (fun entry hentry => ?_) config
  obtain ⟨hzero, hone⟩ := hexpert rule hrule entry hentry
  have hlow : -1 ≤ entry.cfExpert := by linarith
  simp [Confidence.validExpert, hlow, hone]

/-- In exact arithmetic more evidence never weakens a diagnosis. Where a rule yields a result from
one selection, it yields one from every selection that says more, and that one is as certain at
least. -/
theorem evaluate_evidence_mono (config : Config) (hA : A ≠ [])
    (huserA : ∀ r ∈ A, 0 ≤ r.cfUser ∧ r.cfUser ≤ 1)
    (huserB : ∀ r ∈ B, 0 ≤ r.cfUser ∧ r.cfUser ≤ 1) (hAB : A.AtMost B) (rules : List (Rule ℚ))
    (hexpert : ∀ rule ∈ rules, ∀ entry ∈ rule.entries, 0 ≤ entry.cfExpert ∧ entry.cfExpert ≤ 1)
    (damages : List Damage) :
    (rules ≠ [] → ∃ d, evaluate config A rules damages = .ok d) ∧
    ∀ d, evaluate config A rules damages = .ok d →
      ∃ d', evaluate config B rules damages = .ok d' ∧
        ∃ found found', d.Traces A damages rules found ∧ d'.Traces B damages rules found' ∧
          List.Forall₂ (fun c? c'? => ∀ c, c? = some c → ∃ c', c'? = some c' ∧ c.AtMost c')
            found found' := by
  refine ⟨fun hrules => ⟨_, evaluate_of_unit hA huserA hrules hexpert config damages⟩, ?_⟩
  intro d hd
  have hrules : rules ≠ [] := by
    rintro rfl
    cases hd
  have hd' := evaluate_of_unit (hAB.ne_nil hA) huserB hrules hexpert config damages
  refine ⟨_, hd', _, _, traces_of_evaluate hd, traces_of_evaluate hd', ?_⟩
  rw [List.forall₂_map_left_iff, List.forall₂_map_right_iff, List.forall₂_same]
  intro rule hrule c hc
  have hyields : rule.Yields A damages := by
    rw [← Rule.isSome_candidate?_iff, hc]
    rfl
  obtain ⟨c', hc'⟩ := Option.isSome_iff_exists.1
    (Rule.isSome_candidate?_iff.2 (hAB.yields hyields))
  exact ⟨c', hc', hAB.concludes huserB (hexpert rule hrule) (Rule.concludes_of_verdict hc)
    (Rule.concludes_of_verdict hc')⟩

end

/-- One doubtful report. -/
def doubtfulSelection : Selection ℚ :=
  [⟨"G01", 1 / 2⟩]

/-- The same symptom with more certainty, and another one before it. -/
def fullerSelection : Selection ℚ :=
  [⟨"G02", 1⟩, ⟨"G01", 3 / 4⟩]

/-- A rule that has an entry for the other symptom on either side, and a rule about that one
only. -/
def exactRules : List (Rule ℚ) :=
  [{ id := "R1", damageId := "K01",
     entries := [⟨"G02", 1 / 2, none⟩, ⟨"G01", 4 / 5, none⟩, ⟨"G02", 1 / 4, none⟩] },
    { id := "R2", damageId := "K01", entries := [⟨"G02", 1, none⟩] }]

theorem evaluate_evidence_mono_fuller :
    (∀ r ∈ doubtfulSelection, 0 ≤ r.cfUser ∧ r.cfUser ≤ 1) ∧
      (∀ r ∈ fullerSelection, 0 ≤ r.cfUser ∧ r.cfUser ≤ 1) ∧
      doubtfulSelection.AtMost fullerSelection ∧
      (∀ rule ∈ exactRules, ∀ entry ∈ rule.entries, 0 ≤ entry.cfExpert ∧ entry.cfExpert ≤ 1) ∧
      ∃ d, evaluate .strict doubtfulSelection exactRules [⟨"K01", "Weak battery", "", ""⟩] = .ok d ∧
        ∃ d', evaluate .strict fullerSelection exactRules [⟨"K01", "Weak battery", "", ""⟩] =
            .ok d' ∧
          ∃ found found',
            d.Traces doubtfulSelection [⟨"K01", "Weak battery", "", ""⟩] exactRules found ∧
            d'.Traces fullerSelection [⟨"K01", "Weak battery", "", ""⟩] exactRules found' ∧
            List.Forall₂ (fun c? c'? => ∀ c, c? = some c → ∃ c', c'? = some c' ∧ c.AtMost c')
              found found' := by
  have huserA : ∀ r ∈ doubtfulSelection, 0 ≤ r.cfUser ∧ r.cfUser ≤ 1 := by decide +kernel
  have huserB : ∀ r ∈ fullerSelection, 0 ≤ r.cfUser ∧ r.cfUser ≤ 1 := by decide +kernel
  have hexpert : ∀ rule ∈ exactRules, ∀ entry ∈ rule.entries,
      0 ≤ entry.cfExpert ∧ entry.cfExpert ≤ 1 := by decide +kernel
  have hAB : doubtfulSelection.AtMost fullerSelection := by
    intro id cf h
    have hmem : (⟨id, cf⟩ : Reported ℚ) = ⟨"G01", 1 / 2⟩ :=
      List.mem_singleton.1 (Selection.mem_of_firstReport h)
    cases hmem
    exact ⟨3 / 4, Selection.certainty?_eq_some_iff.1 rfl, by norm_num⟩
  obtain ⟨hsucceeds, hmono⟩ := evaluate_evidence_mono .strict (List.cons_ne_nil _ _) huserA huserB
    hAB exactRules hexpert [⟨"K01", "Weak battery", "", ""⟩]
  obtain ⟨d, hd⟩ := hsucceeds (List.cons_ne_nil _ _)
  exact ⟨huserA, huserB, hAB, hexpert, d, hd, hmono d hd⟩

end CertaintyFactor
