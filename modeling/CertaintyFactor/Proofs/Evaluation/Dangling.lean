import CertaintyFactor.Proofs.Catalog.Integrity
import CertaintyFactor.Proofs.Evaluation.Verdicts

/-!
# Rules that dangle over a snapshot

A snapshot and an evaluation look for unknown damages on their own: the snapshot at every rule of
its catalog, the evaluation only at the rules it would otherwise draw a candidate from, and it goes
by the joined records. Still an evaluation over a snapshot never knows more: what it warns of is
noted there already.
-/

set_option autoImplicit false

namespace CertaintyFactor

section

variable {K : Type}

/-- A joined rule that dangles was defined with a damage that is not listed. -/
theorem RuleDefinition.not_listsDamage_of_dangles {c : Catalog K} {definition : RuleDefinition K}
    {selection : Selection K}
    (h : (definition.join c.symptoms c.damages).Dangles selection c.damages) :
    ¬ c.ListsDamage definition.damageId := by
  intro hlisted
  have hcarried : (definition.join c.symptoms c.damages).damage.isSome :=
    Catalog.isSome_damage_withCode?_iff.2 hlisted
  exact h.2 (.inl hcarried)

end

/-- What is said of a rule that dangles is already noted in its snapshot. -/
theorem dropWarning_mem_warnings {c : Catalog Binary64} {revision : Nat}
    {selection : Selection Binary64} {rule : Rule Binary64}
    (hrule : rule ∈ (c.snapshot revision).rules) (h : rule.Dangles selection c.damages) :
    rule.dropWarning ∈ (c.snapshot revision).warnings := by
  obtain ⟨definition, hdefinition, rfl⟩ := List.mem_map.1 hrule
  have hunlisted := RuleDefinition.not_listsDamage_of_dangles h
  exact Catalog.unknownDamage_mem_warnings_iff.2 ⟨definition, hdefinition, rfl, rfl, hunlisted⟩

/-- An evaluation over a snapshot warns of nothing that the snapshot does not, and of as many rules
as it drops. -/
theorem warnings_of_evaluate_snapshot {config : Config} {selection : Selection Binary64}
    {c : Catalog Binary64} {revision : Nat} {d : Diagnosis Binary64}
    (h : evaluate config selection (c.snapshot revision).rules (c.snapshot revision).damages =
      .ok d) :
    (∀ w ∈ d.warnings, w ∈ (c.snapshot revision).warnings) ∧
      d.warnings.length = d.stats.dropped := by
  obtain rfl := evaluate_eq_ok h
  rw [warnings_diagnosisOf, stats_diagnosisOf]
  constructor
  · intro w hw
    obtain ⟨rule, hrule, rfl⟩ := List.mem_map.1 hw
    obtain ⟨hmem, hdangles⟩ := List.mem_filter.1 hrule
    exact dropWarning_mem_warnings hmem (of_decide_eq_true hdangles)
  · rw [List.length_map]
    exact List.countP_eq_length_filter.symm

end CertaintyFactor
