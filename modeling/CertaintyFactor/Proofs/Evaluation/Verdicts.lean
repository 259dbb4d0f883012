import CertaintyFactor.Proofs.Evaluation.Candidates

/-!
# What becomes of a rule

Each rule comes to one of four ends, and which one can be told from the rule, the selection and the
damages alone: it has no entries, it misses the selection, it dangles, or it yields a candidate
(`Rule.Becomes`). So the counters of a diagnosis count rules, and its warnings list the rules that
dangle.
-/

set_option autoImplicit false

namespace CertaintyFactor

section

variable {K : Type}

/-- The rule has entries, and none of them is reported. -/
def Rule.Misses (selection : Selection K) (rule : Rule K) : Prop :=
  rule.entries ≠ [] ∧ ∀ e ∈ rule.entries, ¬ selection.Reports e.symptomId

/-- An entry of the rule is reported, but its damage is unknown. -/
def Rule.Dangles (selection : Selection K) (damages : List Damage) (rule : Rule K) : Prop :=
  (∃ e ∈ rule.entries, selection.Reports e.symptomId) ∧ ¬ rule.Resolves damages

instance (selection : Selection K) : DecidablePred (Rule.Misses selection) :=
  fun rule => decidable_of_iff (rule.entries.isEmpty = false ∧
    ∀ e ∈ rule.entries, ¬ selection.Reports e.symptomId) (by simp [Rule.Misses])

instance (selection : Selection K) (damages : List Damage) :
    DecidablePred (Rule.Dangles selection damages) :=
  fun _ => inferInstanceAs (Decidable (_ ∧ _))

/-- What is said of a rule that is dropped. -/
def Rule.dropWarning (rule : Rule K) : Warning K :=
  .unknownDamage rule.id rule.damageId

variable {selection : Selection K} {damages : List Damage}

/-- The end a rule comes to, with the reason. -/
inductive Rule.Becomes (selection : Selection K) (damages : List Damage) (rule : Rule K) :
    Verdict K → Prop
  | inert (h : rule.entries = []) : Becomes selection damages rule .inert
  | unmatched (h : rule.Misses selection) : Becomes selection damages rule .unmatched
  | dropped (h : rule.Dangles selection damages) :
      Becomes selection damages rule (.dropped rule.id rule.damageId)
  | candidate (hreported : ∃ e ∈ rule.entries, selection.Reports e.symptomId)
      (hresolves : rule.Resolves damages) (found : Candidate K) :
      Becomes selection damages rule (.candidate found)

namespace Rule.Becomes

variable {rule : Rule K} {verdict : Verdict K}

theorem isInert_iff (h : rule.Becomes selection damages verdict) :
    verdict.isInert ↔ rule.entries = [] := by
  cases h with
  | inert hentries => simp [Verdict.isInert, hentries]
  | unmatched hmisses => simp [Verdict.isInert, hmisses.1]
  | dropped hdangles =>
    obtain ⟨⟨e, he, -⟩, -⟩ := hdangles
    simp [Verdict.isInert, List.ne_nil_of_mem he]
  | candidate hreported =>
    obtain ⟨e, he, -⟩ := hreported
    simp [Verdict.isInert, List.ne_nil_of_mem he]

theorem isUnmatched_iff (h : rule.Becomes selection damages verdict) :
    verdict.isUnmatched ↔ rule.Misses selection := by
  cases h with
  | inert hentries => simp [Verdict.isUnmatched, Misses, hentries]
  | unmatched hmisses => simp [Verdict.isUnmatched, hmisses]
  | dropped hdangles =>
    obtain ⟨⟨e, he, hreported⟩, -⟩ := hdangles
    exact iff_of_false Bool.false_ne_true fun hmisses => hmisses.2 e he hreported
  | candidate hreported =>
    obtain ⟨e, he, hreported⟩ := hreported
    exact iff_of_false Bool.false_ne_true fun hmisses => hmisses.2 e he hreported

theorem isDropped_iff (h : rule.Becomes selection damages verdict) :
    verdict.isDropped ↔ rule.Dangles selection damages := by
  cases h with
  | inert hentries => simp [Verdict.isDropped, Dangles, hentries]
  | unmatched hmisses =>
    refine iff_of_false Bool.false_ne_true fun hdangles => ?_
    obtain ⟨⟨e, he, hreported⟩, -⟩ := hdangles
    exact hmisses.2 e he hreported
  | dropped hdangles => exact iff_of_true rfl hdangles
  | candidate _ hresolves =>
    exact iff_of_false Bool.false_ne_true fun hdangles => hdangles.2 hresolves

/-- Of the rules, those that dangle are warned of. -/
theorem warning?_eq (h : rule.Becomes selection damages verdict) :
    verdict.warning? = if rule.Dangles selection damages then some rule.dropWarning else none := by
  have hdropped := h.isDropped_iff
  cases h with
  | dropped hdangles =>
    rw [if_pos hdangles]
    rfl
  | _ =>
    rw [if_neg fun hdangles => Bool.false_ne_true (hdropped.2 hdangles)]
    rfl

end Rule.Becomes

end

section

variable {K : Type} [Confidence K] {selection : Selection K} {damages : List Damage}

theorem Rule.becomes_verdict (selection : Selection K) (damages : List Damage) (rule : Rule K) :
    rule.Becomes selection damages (rule.verdict selection damages) := by
  have hreported : rule.matching selection ≠ [] ↔
      ∃ e ∈ rule.entries, selection.Reports e.symptomId := matching_ne_nil_iff
  have hresolves : (rule.damage? damages).isSome ↔ rule.Resolves damages := isSome_damage?_iff
  unfold verdict
  split
  · next hinert => exact .inert (by simpa [isInert] using hinert)
  · next hinert =>
    have hentries : rule.entries ≠ [] := by simpa [isInert] using hinert
    cases hmatching : rule.matching selection with
    | nil =>
      rw [hmatching] at hreported
      exact .unmatched ⟨hentries, fun e he hrep => hreported.2 ⟨e, he, hrep⟩ rfl⟩
    | cons m rest =>
      have hsome := hreported.1 (by simp [hmatching])
      cases hdamage : rule.damage? damages with
      | none =>
        rw [hdamage] at hresolves
        exact .dropped ⟨hsome, fun h => Bool.false_ne_true (hresolves.2 h)⟩
      | some damage =>
        rw [hdamage] at hresolves
        exact .candidate hsome (hresolves.1 rfl) _

/-! ## Counters and warnings -/

/-- How many rules there are, and how many come to nothing for which reason. -/
def statsOf (selection : Selection K) (damages : List Damage) (rules : List (Rule K)) : Stats where
  total := rules.length
  inert := rules.countP fun rule => rule.entries.isEmpty
  unmatched := rules.countP fun rule => rule.Misses selection
  dropped := rules.countP fun rule => rule.Dangles selection damages

variable (tieBreak : TieBreak) (rules : List (Rule K))

theorem stats_diagnosisOf :
    (diagnosisOf tieBreak selection rules damages).stats = statsOf selection damages rules := by
  have hbecomes (rule : Rule K) := rule.becomes_verdict selection damages
  have hcount {p : Verdict K → Bool} {q : Rule K → Bool}
      (hpq : ∀ rule, p (rule.verdict selection damages) ↔ q rule) :
      (rules.map (·.verdict selection damages)).countP p = rules.countP q := by
    rw [List.countP_map]
    exact List.countP_congr fun rule _ => hpq rule
  show Stats.ofVerdicts (rules.map (·.verdict selection damages)) = _
  unfold Stats.ofVerdicts statsOf
  congr 1
  · exact List.length_map _
  · exact hcount fun rule => (hbecomes rule).isInert_iff.trans List.isEmpty_iff.symm
  · exact hcount fun rule => (hbecomes rule).isUnmatched_iff.trans decide_eq_true_iff.symm
  · exact hcount fun rule => (hbecomes rule).isDropped_iff.trans decide_eq_true_iff.symm

theorem warnings_diagnosisOf : (diagnosisOf tieBreak selection rules damages).warnings =
    (rules.filter fun rule => rule.Dangles selection damages).map Rule.dropWarning := by
  show (rules.map (·.verdict selection damages)).filterMap (·.warning?) = _
  rw [List.filterMap_map, ← List.filterMap_eq_map, List.filterMap_filter]
  apply List.filterMap_congr
  intro rule _
  rw [Function.comp_apply, (rule.becomes_verdict selection damages).warning?_eq]
  simp

end

end CertaintyFactor
