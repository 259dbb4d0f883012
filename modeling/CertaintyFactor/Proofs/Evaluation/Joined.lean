import CertaintyFactor.Catalog.Snapshot
import CertaintyFactor.Evaluation
import CertaintyFactor.Proofs.Traversal

/-!
# Evaluations over snapshots

The rules of a snapshot carry the damages they lead to, and the snapshot lists the damages as well.
An evaluation may take either: with the carried damages alone or with the listed ones alone it
answers what it answers with both, since the join and the evaluation settle on the same record of a
code, the first one, and find none for the same codes.
-/

set_option autoImplicit false

namespace CertaintyFactor

section

variable {K : Type}

/-- The rule without the damage it carries. -/
def Rule.withoutDamage (rule : Rule K) : Rule K :=
  { rule with damage := none }

/-! ## The damage of a joined rule -/

namespace RuleDefinition

/-- A joined rule leads to the first listed damage of its code. -/
theorem damage?_join (symptoms : List Symptom) (damages : List Damage)
    (definition : RuleDefinition K) :
    (definition.join symptoms damages).damage? damages =
      Damage.withCode? damages definition.damageId := by
  show (Damage.withCode? damages definition.damageId <|>
    Damage.withCode? damages definition.damageId) = _
  cases Damage.withCode? damages definition.damageId <;> rfl

/-- It carries this damage, so no list is needed. -/
theorem damage?_join_nil (symptoms : List Symptom) (damages : List Damage)
    (definition : RuleDefinition K) :
    (definition.join symptoms damages).damage? [] =
      Damage.withCode? damages definition.damageId := by
  show (Damage.withCode? damages definition.damageId <|> none) = _
  cases Damage.withCode? damages definition.damageId <;> rfl

/-- With the list, it need not be carried. -/
theorem damage?_withoutDamage_join (symptoms : List Symptom) (damages : List Damage)
    (definition : RuleDefinition K) :
    (definition.join symptoms damages).withoutDamage.damage? damages =
      Damage.withCode? damages definition.damageId :=
  rfl

end RuleDefinition

end

section

variable {K : Type} [Confidence K]

/-! ## What a judgement depends on -/

/-- Rules that differ only in how they come by their damage are judged alike. -/
theorem Rule.judge_congr {rule other : Rule K} {damages others : List Damage}
    (hid : other.id = rule.id) (hdamageId : other.damageId = rule.damageId)
    (hentries : other.entries = rule.entries)
    (hdamage : other.damage? others = rule.damage? damages) (config : Config)
    (selection : Selection K) :
    other.judge config selection others = rule.judge config selection damages := by
  have hmatching : other.matching selection = rule.matching selection := by
    rw [matching, matching, hentries]
  have hcandidate : other.candidate = rule.candidate := by
    funext damage matching cf
    rw [candidate, candidate, hid, hentries]
  have hverdict : other.verdict selection others = rule.verdict selection damages := by
    rw [verdict, verdict, isInert, isInert, hentries, hmatching, hdamage, hcandidate, hid,
      hdamageId]
  rw [judge, judge, outOfRange?, outOfRange?, hmatching, hverdict, hid]

section

variable {config : Config} {selection : Selection K} {rules : List (Rule K)}
  {damages others : List Damage} {f : Rule K → Rule K}

/-- Rules judged alike, one by one, give the same evaluation. -/
theorem evaluate_map_congr
    (h : ∀ rule ∈ rules, (f rule).judge config selection others =
      rule.judge config selection damages) :
    evaluate config selection (rules.map f) others = evaluate config selection rules damages := by
  have hrefusal : refusal? config selection (rules.map f) = refusal? config selection rules := by
    rw [refusal?, refusal?, List.isEmpty_map]
  have hjudge : rules.mapM (Rule.judge config selection others ∘ f) =
      rules.mapM (Rule.judge config selection damages) := mapM_congr h
  rw [evaluate, evaluate, hrefusal, List.mapM_map, hjudge]

end

/-- An evaluation over a snapshot answers the same whether it takes the damages from the rules, from
the list, or from both. -/
theorem evaluate_snapshot_damages (config : Config) (selection : Selection K) (c : Catalog K)
    (revision : Nat) :
    let s := c.snapshot revision
    evaluate config selection s.rules [] = evaluate config selection s.rules s.damages ∧
      evaluate config selection (s.rules.map Rule.withoutDamage) s.damages =
        evaluate config selection s.rules s.damages := by
  constructor
  · have hsame : ∀ rule ∈ (c.snapshot revision).rules, (id rule).judge config selection [] =
        rule.judge config selection c.damages := by
      intro rule hrule
      obtain ⟨definition, -, rfl⟩ := List.mem_map.1 hrule
      have hdamage := (definition.damage?_join_nil c.symptoms c.damages).trans
        (definition.damage?_join c.symptoms c.damages).symm
      exact Rule.judge_congr rfl rfl rfl hdamage config selection
    have h := evaluate_map_congr hsame
    rwa [List.map_id] at h
  · refine evaluate_map_congr fun rule hrule => ?_
    obtain ⟨definition, -, rfl⟩ := List.mem_map.1 hrule
    have hdamage := (definition.damage?_withoutDamage_join c.symptoms c.damages).trans
      (definition.damage?_join c.symptoms c.damages).symm
    refine Rule.judge_congr ?_ ?_ ?_ hdamage config selection <;> rfl

end

end CertaintyFactor
