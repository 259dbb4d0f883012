import CertaintyFactor.Evaluation
import CertaintyFactor.Proofs.Pairing
import CertaintyFactor.Proofs.Traversal
import Mathlib.Data.List.Basic

/-!
# The candidates of an evaluation

What an evaluation answers, said without its verdicts: a rule yields a candidate when one of its
entries is reported and its damage is known (`Rule.Yields`), and `Candidate.Concludes` says which
candidate that is. `evaluate_lenient` reduces an evaluation that lets all certainties through to
`diagnosisOf`, a plain function of the rules, and `evaluate_eq_ok` does so for every evaluation that
succeeds.
-/

set_option autoImplicit false

namespace CertaintyFactor

section

variable {K : Type}

/-! ## First reports and resolved damages -/

/-- Some entry of the selection names the symptom. -/
def Selection.Reports (selection : Selection K) (id : String) : Prop :=
  ∃ r ∈ selection, r.symptomId = id

instance (selection : Selection K) (id : String) : Decidable (selection.Reports id) :=
  inferInstanceAs (Decidable (∃ r ∈ selection, r.symptomId = id))

/-- The first entry of the selection that names the symptom gives it the certainty `cf`. -/
def Selection.FirstReport (selection : Selection K) (id : String) (cf : K) : Prop :=
  ∃ before after, selection = before ++ ⟨id, cf⟩ :: after ∧ ∀ r ∈ before, r.symptomId ≠ id

theorem Selection.certainty?_eq_some_iff {selection : Selection K} {id : String} {cf : K} :
    selection.certainty? id = some cf ↔ selection.FirstReport id cf := by
  simp only [certainty?, Option.map_eq_some_iff, List.find?_eq_some_iff_append, FirstReport]
  constructor
  · rintro ⟨⟨id', cf'⟩, ⟨hid, before, after, hsplit, hfirst⟩, rfl⟩
    obtain rfl : id' = id := by simpa using hid
    exact ⟨before, after, hsplit, fun r hr => by simpa using hfirst r hr⟩
  · rintro ⟨before, after, hsplit, hfirst⟩
    exact ⟨⟨id, cf⟩, ⟨by simp, before, after, hsplit, fun r hr => by simpa using hfirst r hr⟩, rfl⟩

theorem Selection.isSome_certainty?_iff {selection : Selection K} {id : String} :
    (selection.certainty? id).isSome ↔ selection.Reports id := by
  simp [certainty?, Reports, List.find?_isSome]

/-- `damage` is what the rule leads to: the damage it carries, else the first listed one of its
code. -/
inductive Rule.LeadsTo (rule : Rule K) (damages : List Damage) (damage : Damage) : Prop
  | carried (h : rule.damage = some damage)
  | listed (before after : List Damage) (h : rule.damage = none)
      (split : damages = before ++ damage :: after) (code : damage.id = rule.damageId)
      (first : ∀ d ∈ before, d.id ≠ rule.damageId)

/-- The rule carries its damage, or some listed damage has its code. -/
def Rule.Resolves (rule : Rule K) (damages : List Damage) : Prop :=
  rule.damage.isSome ∨ ∃ d ∈ damages, d.id = rule.damageId

instance (rule : Rule K) (damages : List Damage) : Decidable (rule.Resolves damages) :=
  inferInstanceAs (Decidable (_ ∨ _))

theorem Rule.leadsTo_of_damage? {rule : Rule K} {damages : List Damage} {damage : Damage}
    (h : rule.damage? damages = some damage) : rule.LeadsTo damages damage := by
  cases hcarried : rule.damage with
  | some carried =>
    obtain rfl : carried = damage := by simpa [damage?, hcarried] using h
    exact .carried hcarried
  | none =>
    have hfind : damages.find? (·.id == rule.damageId) = some damage := by
      simpa [damage?, hcarried] using h
    obtain ⟨hcode, before, after, hsplit, hfirst⟩ := List.find?_eq_some_iff_append.1 hfind
    exact .listed before after hcarried hsplit (by simpa using hcode)
      fun d hd => by simpa using hfirst d hd

theorem Rule.isSome_damage?_iff {rule : Rule K} {damages : List Damage} :
    (rule.damage? damages).isSome ↔ rule.Resolves damages := by
  cases h : rule.damage <;> simp [damage?, Resolves, h, List.find?_isSome]

end

section

variable {K : Type} [Confidence K]

/-! ## Matches -/

/-- `m` is the match of a rule entry: its certainties are the entry's, the one of the first report
of its symptom, and their product. -/
structure Match.Weighs (selection : Selection K) (m : Match K) (entry : Rule.Entry K) : Prop where
  symptomId : m.symptomId = entry.symptomId
  symptomName : m.symptomName = entry.displayName
  cfExpert : m.cfExpert = entry.cfExpert
  cfUser : selection.FirstReport entry.symptomId m.cfUser
  cfCombined : m.cfCombined = product entry.cfExpert m.cfUser

theorem Rule.Entry.weighs_of_match? {selection : Selection K} {entry : Rule.Entry K} {m : Match K}
    (h : entry.match? selection = some m) : m.Weighs selection entry := by
  obtain ⟨cfUser, hcf, rfl⟩ := Option.map_eq_some_iff.1 h
  exact ⟨rfl, rfl, rfl, Selection.certainty?_eq_some_iff.1 hcf, rfl⟩

theorem Rule.Entry.isSome_match?_iff {selection : Selection K} {entry : Rule.Entry K} :
    (entry.match? selection).isSome ↔ selection.Reports entry.symptomId := by
  rw [match?, Option.isSome_map, Selection.isSome_certainty?_iff]

/-- The matches of a rule pair up with its reported entries, in the rule's order. -/
theorem Rule.forall₂_matching (rule : Rule K) (selection : Selection K) :
    List.Forall₂ (Match.Weighs selection) (rule.matching selection)
      (rule.entries.filter fun e => selection.Reports e.symptomId) :=
  forall₂_filterMap (fun _ _ => Entry.weighs_of_match?) (fun _ => Entry.isSome_match?_iff) _

theorem Rule.length_matching_le (rule : Rule K) (selection : Selection K) :
    (rule.matching selection).length ≤ rule.entries.length :=
  List.length_filterMap_le _ _

/-- A rule has a match when one of its entries is reported. -/
theorem Rule.matching_ne_nil_iff {rule : Rule K} {selection : Selection K} :
    rule.matching selection ≠ [] ↔ ∃ e ∈ rule.entries, selection.Reports e.symptomId := by
  simp only [matching, ne_eq, List.filterMap_eq_nil_iff, not_forall, ← Option.isSome_iff_ne_none,
    Rule.Entry.isSome_match?_iff, exists_prop]

/-! ## Candidates -/

/-- The rule yields a candidate: one of its entries is reported, and its damage is known. -/
def Rule.Yields (selection : Selection K) (damages : List Damage) (rule : Rule K) : Prop :=
  (∃ e ∈ rule.entries, selection.Reports e.symptomId) ∧ rule.Resolves damages

instance (selection : Selection K) (damages : List Damage) :
    DecidablePred (Rule.Yields selection damages) :=
  fun _ => inferInstanceAs (Decidable (_ ∧ _))

/-- `c` is the candidate, not yet ranked, that a rule yields: it names the damage the rule leads to,
holds the matches of the reported entries in the rule's order, and is as certain as these combined
from the first one on. -/
structure Candidate.Concludes (selection : Selection K) (damages : List Damage) (c : Candidate K)
    (rule : Rule K) : Prop where
  damage : ∃ d, rule.LeadsTo damages d ∧ c.damageId = d.id ∧ c.name = d.name ∧
    c.description = d.description ∧ c.solution = d.solution
  ruleId : c.ruleId = rule.id
  matching : List.Forall₂ (Match.Weighs selection) c.matching
    (rule.entries.filter fun e => selection.Reports e.symptomId)
  cf : ∃ first rest, c.matching.map (·.cfCombined) = first :: rest ∧
    c.cf = rest.foldl combine first
  percentage : c.percentage = Confidence.percent c.cf
  matched : c.matched = c.matching.length
  total : c.total = rule.entries.length
  matched_pos : 1 ≤ c.matched
  matched_le : c.matched ≤ c.total
  unranked : c.rank = 0

/-- The candidates of some rules, in the order of the rules. -/
def candidates (selection : Selection K) (damages : List Damage) (rules : List (Rule K)) :
    List (Candidate K) :=
  rules.filterMap fun rule => (rule.verdict selection damages).candidate?

theorem Rule.concludes_of_verdict {selection : Selection K} {damages : List Damage} {rule : Rule K}
    {c : Candidate K} (h : (rule.verdict selection damages).candidate? = some c) :
    c.Concludes selection damages rule := by
  simp only [verdict] at h
  split at h
  · simp [Verdict.candidate?] at h
  · cases hcf : combineAll? ((rule.matching selection).map (·.cfCombined)) with
    | none => simp [hcf, Verdict.candidate?] at h
    | some cf =>
      cases hdamage : rule.damage? damages with
      | none => simp [hcf, hdamage, Verdict.candidate?] at h
      | some damage =>
        obtain rfl : rule.candidate damage (rule.matching selection) cf = c := by
          simpa [hcf, hdamage, Verdict.candidate?] using h
        cases hmatching : rule.matching selection with
        | nil => simp [hmatching, combineAll?] at hcf
        | cons m rest =>
          rw [hmatching] at hcf
          have hle := rule.length_matching_le selection
          have hforall := rule.forall₂_matching selection
          rw [hmatching] at hle hforall
          exact {
            damage := ⟨damage, leadsTo_of_damage? hdamage, rfl, rfl, rfl, rfl⟩
            ruleId := rfl
            matching := hforall
            cf := ⟨m.cfCombined, rest.map Match.cfCombined, rfl, (Option.some.inj hcf).symm⟩
            percentage := rfl
            matched := rfl
            total := rfl
            matched_pos := Nat.succ_le_succ (Nat.zero_le _)
            matched_le := hle
            unranked := rfl }

theorem Rule.isSome_candidate?_iff {selection : Selection K} {damages : List Damage}
    {rule : Rule K} :
    (rule.verdict selection damages).candidate?.isSome ↔ rule.Yields selection damages := by
  rw [Yields, ← matching_ne_nil_iff, ← isSome_damage?_iff]
  unfold verdict
  split
  · next hinert =>
    have hentries : rule.entries = [] := by simpa [isInert] using hinert
    simp [Verdict.candidate?, matching, hentries]
  · cases rule.matching selection with
    | nil => simp [combineAll?, Verdict.candidate?]
    | cons m rest => cases rule.damage? damages <;> simp [combineAll?, Verdict.candidate?]

/-- The candidates pair up with the rules that yield one, position by position. -/
theorem forall₂_candidates (selection : Selection K) (damages : List Damage)
    (rules : List (Rule K)) :
    List.Forall₂ (Candidate.Concludes selection damages) (candidates selection damages rules)
      (rules.filter fun rule => rule.Yields selection damages) :=
  forall₂_filterMap (fun _ _ => Rule.concludes_of_verdict)
    (fun _ => Rule.isSome_candidate?_iff) rules

/-! ## Evaluations -/

/-- The diagnosis that lets all certainties through. -/
def diagnosisOf (tieBreak : TieBreak) (selection : Selection K) (rules : List (Rule K))
    (damages : List Damage) : Diagnosis K :=
  let verdicts := rules.map (·.verdict selection damages)
  { results := rank tieBreak (verdicts.filterMap (·.candidate?))
    warnings := verdicts.filterMap (·.warning?)
    stats := .ofVerdicts verdicts }

theorem results_diagnosisOf (tieBreak : TieBreak) (selection : Selection K)
    (rules : List (Rule K)) (damages : List Damage) :
    (diagnosisOf tieBreak selection rules damages).results =
      rank tieBreak (candidates selection damages rules) := by
  rw [diagnosisOf, candidates, List.filterMap_map]
  rfl

theorem Rule.verdict_of_judge {config : Config} {selection : Selection K} {damages : List Damage}
    {rule : Rule K} {verdict : Verdict K} (h : rule.judge config selection damages = .ok verdict) :
    verdict = rule.verdict selection damages := by
  unfold judge at h
  split at h
  · cases h
  · exact (Except.ok.inj h).symm

/-- Judging some rules one after the other gives their verdicts, if no rule is refused. -/
theorem mapM_judge_eq_ok_iff {config : Config} {selection : Selection K} {damages : List Damage}
    {rules : List (Rule K)} {verdicts : List (Verdict K)} :
    rules.mapM (Rule.judge config selection damages) = .ok verdicts ↔
      (∀ rule ∈ rules,
        rule.judge config selection damages = .ok (rule.verdict selection damages)) ∧
      verdicts = rules.map (·.verdict selection damages) := by
  rw [mapM_eq_ok_iff]
  constructor
  · intro h
    induction h with
    | nil => exact ⟨nofun, rfl⟩
    | cons hrule _ ih =>
      obtain rfl := Rule.verdict_of_judge hrule
      exact ⟨List.forall_mem_cons.2 ⟨hrule, ih.1⟩, congrArg _ ih.2⟩
  · rintro ⟨h, rfl⟩
    exact List.forall₂_map_right_iff.2 (List.forall₂_same.2 h)

/-- An evaluation succeeds if it may start and no rule is refused. -/
theorem evaluate_eq_ok_iff {config : Config} {selection : Selection K} {rules : List (Rule K)}
    {damages : List Damage} {d : Diagnosis K} :
    evaluate config selection rules damages = .ok d ↔
      refusal? config selection rules = none ∧
      (∀ rule ∈ rules,
        rule.judge config selection damages = .ok (rule.verdict selection damages)) ∧
      d = diagnosisOf config.tieBreak selection rules damages := by
  unfold evaluate
  cases refusal? config selection rules with
  | some error => simp
  | none =>
    dsimp only
    constructor
    · intro h
      cases hverdicts : rules.mapM (Rule.judge config selection damages) with
      | error e => simp [hverdicts, bind, Except.bind] at h
      | ok verdicts =>
        obtain ⟨hjudge, rfl⟩ := mapM_judge_eq_ok_iff.1 hverdicts
        rw [hverdicts] at h
        exact ⟨rfl, hjudge, (Except.ok.inj h).symm⟩
    · rintro ⟨-, hjudge, rfl⟩
      rw [mapM_judge_eq_ok_iff.2 ⟨hjudge, rfl⟩]
      rfl

theorem evaluate_eq_ok {config : Config} {selection : Selection K} {rules : List (Rule K)}
    {damages : List Damage} {d : Diagnosis K}
    (h : evaluate config selection rules damages = .ok d) :
    d = diagnosisOf config.tieBreak selection rules damages :=
  (evaluate_eq_ok_iff.1 h).2.2

/-- An evaluation starts on some reports by some rules, unless it is to refuse a report that is out
of its range. -/
theorem refusal?_eq_none_iff {config : Config} {selection : Selection K} {rules : List (Rule K)} :
    refusal? config selection rules = none ↔ rules ≠ [] ∧ selection ≠ [] ∧
      (config.strictRanges → ∀ r ∈ selection, Confidence.validUser r.cfUser) := by
  unfold refusal?
  by_cases hrules : rules = []
  · simp [hrules]
  by_cases hselection : selection = []
  · simp [hrules, hselection]
  cases config.strictRanges <;> simp [hrules, hselection, Selection.outOfRange?]

theorem refusal?_eq_none {config : Config} {selection : Selection K} (hselection : selection ≠ [])
    {rules : List (Rule K)} (hrules : rules ≠ [])
    (hvalid : config.strictRanges → ∀ r ∈ selection, Confidence.validUser r.cfUser) :
    refusal? config selection rules = none :=
  refusal?_eq_none_iff.2 ⟨hrules, hselection, hvalid⟩

/-- An evaluation that may start and finds nothing out of range succeeds. -/
theorem evaluate_of_forall {config : Config} {selection : Selection K} {damages : List Damage}
    {rules : List (Rule K)} (hstart : refusal? config selection rules = none)
    (h : ∀ rule ∈ rules,
      rule.judge config selection damages = .ok (rule.verdict selection damages)) :
    evaluate config selection rules damages =
      .ok (diagnosisOf config.tieBreak selection rules damages) :=
  evaluate_eq_ok_iff.2 ⟨hstart, h, rfl⟩

theorem evaluate_lenient {config : Config} (hlenient : config.strictRanges = false)
    {selection : Selection K} (hselection : selection ≠ []) {rules : List (Rule K)}
    (hrules : rules ≠ []) (damages : List Damage) :
    evaluate config selection rules damages =
      .ok (diagnosisOf config.tieBreak selection rules damages) := by
  have hstart : refusal? config selection rules = none :=
    refusal?_eq_none hselection hrules (by simp [hlenient])
  refine evaluate_of_forall hstart fun rule _ => ?_
  simp [Rule.judge, hlenient]

/-! ## No candidate is lost or doubled -/

/-- A candidate with its place in the ranking forgotten. -/
def Candidate.unranked (c : Candidate K) : Candidate K :=
  { c with rank := 0 }

/-- Ranking reorders candidates and changes nothing but their places. -/
theorem map_unranked_rank (tieBreak : TieBreak) (cs : List (Candidate K)) :
    (rank tieBreak cs).map Candidate.unranked =
      (cs.mergeSort (Candidate.precedes tieBreak)).map Candidate.unranked := by
  apply List.ext_getElem
  · simp [rank]
  · intro i _ _
    simp [rank, Candidate.unranked]

/-- A ranked candidate is one of those ranked, with a place. -/
theorem exists_of_mem_rank {tieBreak : TieBreak} {cs : List (Candidate K)} {c : Candidate K}
    (h : c ∈ rank tieBreak cs) : ∃ c' ∈ cs, ∃ place ≤ cs.length, c = { c' with rank := place } := by
  obtain ⟨i, hi, rfl⟩ := List.mem_mapIdx.1 h
  refine ⟨_, List.mem_mergeSort.1 (List.getElem_mem hi), i + 1, ?_, rfl⟩
  rw [List.length_mergeSort] at hi
  exact hi

/-- Each result is what some rule concludes, with a place. -/
theorem exists_concludes_of_mem {config : Config} {selection : Selection K} {rules : List (Rule K)}
    {damages : List Damage} {d : Diagnosis K} (h : evaluate config selection rules damages = .ok d)
    {r : Candidate K} (hr : r ∈ d.results) : ∃ rule ∈ rules, ∃ found : Candidate K,
      found.Concludes selection damages rule ∧
        ∃ place ≤ (candidates selection damages rules).length,
          r = { found with rank := place } := by
  rw [evaluate_eq_ok h, results_diagnosisOf] at hr
  obtain ⟨found, hfound, hplace⟩ := exists_of_mem_rank hr
  obtain ⟨rule, hrule, hverdict⟩ := List.mem_filterMap.1 hfound
  exact ⟨rule, hrule, found, Rule.concludes_of_verdict hverdict, hplace⟩

theorem map_unranked_candidates (selection : Selection K) (damages : List Damage)
    (rules : List (Rule K)) :
    (candidates selection damages rules).map Candidate.unranked =
      candidates selection damages rules := by
  have hall : ∀ c ∈ candidates selection damages rules, c.unranked = id c := by
    intro c hc
    obtain ⟨rule, -, hrule⟩ := List.mem_filterMap.1 hc
    have hrank := (Rule.concludes_of_verdict hrule).unranked
    cases c
    simpa [Candidate.unranked] using hrank.symm
  rw [List.map_congr_left hall, List.map_id]

/-- An evaluation that lets all certainties through answers, in some order, with one candidate for
each position of a rule that yields one. -/
theorem evaluate_results_perm (config : Config) (hlenient : config.strictRanges = false)
    (selection : Selection K) (hselection : selection ≠ []) (rules : List (Rule K))
    (hrules : rules ≠ []) (damages : List Damage) :
    ∃ d, evaluate config selection rules damages = .ok d ∧
      ∃ found : List (Candidate K), (d.results.map Candidate.unranked).Perm found ∧
        List.Forall₂ (Candidate.Concludes selection damages) found
          (rules.filter fun rule => rule.Yields selection damages) := by
  refine ⟨_, evaluate_lenient hlenient hselection hrules damages,
    candidates selection damages rules, ?_, forall₂_candidates selection damages rules⟩
  rw [results_diagnosisOf, map_unranked_rank]
  have hperm := List.mergeSort_perm (candidates selection damages rules)
    (Candidate.precedes config.tieBreak)
  simpa [map_unranked_candidates] using hperm.map Candidate.unranked

end

/-- A symptom reported twice, and one whose certainty is no number. -/
def mixedSelection : Selection Binary64 :=
  [⟨"G01", 0.4⟩, ⟨"G01", 1⟩, ⟨"G02", .nan⟩]

/-- A rule that names a symptom twice, the same rule again, one without entries, one of an unlisted
damage, and one that carries its damage. -/
def mixedRules : List (Rule Binary64) :=
  [{ id := "R1", damageId := "K01", entries := [⟨"G01", 0.5, none⟩, ⟨"G07", 1, none⟩,
      ⟨"G01", 0.5, none⟩] },
    { id := "R1", damageId := "K01", entries := [⟨"G01", 0.5, none⟩, ⟨"G07", 1, none⟩,
      ⟨"G01", 0.5, none⟩] },
    { id := "R2", damageId := "K01" },
    { id := "R3", damageId := "K99", entries := [⟨"G02", 1, none⟩] },
    { id := "R4", damageId := "K98", damage := some { id := "K00", name := "Worn chain" },
      entries := [⟨"G02", -2, none⟩] }]

theorem evaluate_results_perm_mixed :
    ({} : Config).strictRanges = false ∧ mixedSelection ≠ [] ∧ mixedRules ≠ [] ∧
      ∃ d, evaluate {} mixedSelection mixedRules [⟨"K01", "Weak battery", "", ""⟩] = .ok d ∧
        ∃ found : List (Candidate Binary64), (d.results.map Candidate.unranked).Perm found ∧
          List.Forall₂ (Candidate.Concludes mixedSelection [⟨"K01", "Weak battery", "", ""⟩]) found
            (mixedRules.filter fun rule =>
              rule.Yields mixedSelection [⟨"K01", "Weak battery", "", ""⟩]) :=
  ⟨rfl, nofun, nofun, evaluate_results_perm {} rfl mixedSelection nofun mixedRules nofun _⟩

end CertaintyFactor
