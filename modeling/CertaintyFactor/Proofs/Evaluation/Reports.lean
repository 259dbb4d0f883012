import CertaintyFactor.Proofs.Evaluation.Ranking
import CertaintyFactor.Proofs.Evaluation.Strict

/-!
# What an evaluation reads in a selection

The rules look symptoms up in a selection and find first reports. So two selections that first
report the same of every symptom a rule names (`Selection.AgreeOn`) are evaluated alike, unless one
of them is refused as a whole, for being empty or for a report out of range. What follows a first
report, what no rule asks for and, where no symptom is reported twice, the order of the reports make
no difference (`Selection.Rewords`).
-/

set_option autoImplicit false

namespace CertaintyFactor

/-! ## Rules and what they look up -/

section

variable {K : Type} [Confidence K] {A B : Selection K}

theorem Rule.matching_congr {rule : Rule K}
    (h : ∀ entry ∈ rule.entries, A.certainty? entry.symptomId = B.certainty? entry.symptomId) :
    rule.matching A = rule.matching B := by
  unfold matching
  apply List.filterMap_congr
  intro entry hentry
  rw [Entry.match?, Entry.match?, h entry hentry]

/-- A rule is judged by its matches. -/
theorem Rule.judge_of_matching_eq {rule : Rule K} (h : rule.matching A = rule.matching B)
    (config : Config) (damages : List Damage) :
    rule.judge config A damages = rule.judge config B damages := by
  rw [judge, judge, outOfRange?, outOfRange?, verdict, verdict, h]

end

/-! ## Lookups in changed selections -/

namespace Selection

section

variable {K : Type}

/-- The selections first report the same of every symptom that a rule names. -/
def AgreeOn (rules : List (Rule K)) (A B : Selection K) : Prop :=
  ∀ rule ∈ rules, ∀ entry ∈ rule.entries, ∀ cf,
    A.FirstReport entry.symptomId cf ↔ B.FirstReport entry.symptomId cf

/-- A change of a selection that tells the rules nothing new: a report is left out, or put in if one
reads it backwards, or reports change places. -/
inductive Rewords (rules : List (Rule K)) : Selection K → Selection K → Prop
  /-- The symptom is reported before. -/
  | repeated (before after : Selection K) (r : Reported K) (h : before.Reports r.symptomId) :
      Rewords rules (before ++ r :: after) (before ++ after)
  /-- No rule names the symptom, and there are other reports. -/
  | foreign (before after : Selection K) (r : Reported K)
      (h : ∀ rule ∈ rules, ∀ entry ∈ rule.entries, entry.symptomId ≠ r.symptomId)
      (hrest : before ++ after ≠ []) : Rewords rules (before ++ r :: after) (before ++ after)
  /-- No symptom is reported twice. -/
  | reordered {A B : Selection K} (h : A.Perm B) (distinct : (A.map (·.symptomId)).Nodup) :
      Rewords rules A B

variable {A B : Selection K} {rules : List (Rule K)}

theorem certainty?_append (A B : Selection K) (id : String) :
    certainty? (A ++ B) id = (A.certainty? id).or (B.certainty? id) := by
  unfold certainty?
  rw [List.find?_append, Option.map_or]

theorem certainty?_cons_of_ne {r : Reported K} {id : String} (h : id ≠ r.symptomId)
    (A : Selection K) : certainty? (r :: A) id = A.certainty? id := by
  unfold certainty?
  rw [List.find?_cons_of_neg (by simpa using fun hid => h hid.symm)]

/-- Where each symptom is reported once, each report is a first one. -/
theorem certainty?_eq_some_iff_mem (distinct : (A.map (·.symptomId)).Nodup) {id : String} {cf : K} :
    A.certainty? id = some cf ↔ ⟨id, cf⟩ ∈ A := by
  rw [certainty?_eq_some_iff]
  constructor
  · rintro ⟨before, after, rfl, -⟩
    exact List.mem_append_right before List.mem_cons_self
  · intro hmem
    obtain ⟨before, after, rfl⟩ := List.append_of_mem hmem
    refine ⟨before, after, rfl, fun r hr hid => ?_⟩
    rw [List.map_append, List.map_cons, List.nodup_append] at distinct
    exact distinct.2.2 _ (List.mem_map_of_mem hr) _ List.mem_cons_self hid

theorem agreeOn_iff : A.AgreeOn rules B ↔ ∀ rule ∈ rules, ∀ entry ∈ rule.entries,
    A.certainty? entry.symptomId = B.certainty? entry.symptomId := by
  unfold AgreeOn
  constructor
  · intro h rule hrule entry hentry
    ext cf
    rw [certainty?_eq_some_iff, certainty?_eq_some_iff]
    exact h rule hrule entry hentry cf
  · intro h rule hrule entry hentry cf
    rw [← certainty?_eq_some_iff, ← certainty?_eq_some_iff, h rule hrule entry hentry]

theorem Rewords.agreeOn (h : Rewords rules A B) : A.AgreeOn rules B := by
  rw [agreeOn_iff]
  intro rule hrule entry hentry
  cases h with
  | repeated before after r hreported =>
    rw [certainty?_append, certainty?_append]
    by_cases hid : entry.symptomId = r.symptomId
    · obtain ⟨cf, hcf⟩ := Option.isSome_iff_exists.1 (isSome_certainty?_iff.2 hreported)
      rw [hid, hcf, Option.some_or, Option.some_or]
    · rw [certainty?_cons_of_ne hid]
  | foreign before after r hforeign =>
    rw [certainty?_append, certainty?_append,
      certainty?_cons_of_ne (hforeign rule hrule entry hentry)]
  | reordered hperm distinct =>
    have distinct' : (B.map (·.symptomId)).Nodup := (hperm.map _).nodup_iff.1 distinct
    ext cf
    rw [certainty?_eq_some_iff_mem distinct, certainty?_eq_some_iff_mem distinct', hperm.mem_iff]

theorem Rewords.subset (h : Rewords rules A B) : ∀ r ∈ B, r ∈ A := by
  have hinsert : ∀ (before after : Selection K) (r : Reported K),
      ∀ other ∈ before ++ after, other ∈ before ++ r :: after := fun before after r other hother =>
    List.Sublist.subset (List.Sublist.append_left (List.sublist_cons_self r after) before) hother
  cases h with
  | repeated before after r => exact hinsert before after r
  | foreign before after r => exact hinsert before after r
  | reordered hperm => exact fun r => hperm.mem_iff.2

theorem Rewords.eq_nil_iff (h : Rewords rules A B) : A = [] ↔ B = [] := by
  cases h with
  | repeated before after r hreported =>
    obtain ⟨first, hfirst, -⟩ := hreported
    have hbefore : before ≠ [] := List.ne_nil_of_mem hfirst
    simp [hbefore]
  | foreign before after r _ hrest => simpa using hrest
  | reordered hperm =>
    constructor
    · rintro rfl
      exact hperm.symm.eq_nil
    · rintro rfl
      exact hperm.eq_nil

end

end Selection

/-! ## Evaluations of selections that agree -/

section

variable {A B : Selection Binary64} {rules : List (Rule Binary64)} {config : Config}
  {damages : List Damage}

/-- Where ranges are checked, all reports are within that of users. -/
def Selection.InRange (config : Config) (selection : Selection Binary64) : Prop :=
  config.strictRanges → ∀ r ∈ selection, r.cfUser.Within 0 1

theorem refusal?_of_inRange (hA : A ≠ []) (hrange : A.InRange config) (hrules : rules ≠ []) :
    refusal? config A rules = none := by
  apply refusal?_eq_none hA hrules
  intro hstrict r hr
  exact Binary64.validUser_iff.2 (hrange hstrict r hr)

theorem evaluate_of_agreeOn (hA : A ≠ []) (hB : B ≠ []) (hrangeA : A.InRange config)
    (hrangeB : B.InRange config) (h : A.AgreeOn rules B) :
    evaluate config A rules damages = evaluate config B rules damages := by
  by_cases hrules : rules = []
  · rw [hrules, evaluate_of_noRules, evaluate_of_noRules]
  · have hjudge : rules.mapM (Rule.judge config A damages) =
        rules.mapM (Rule.judge config B damages) := by
      rw [Selection.agreeOn_iff] at h
      apply mapM_congr
      intro rule hrule
      exact Rule.judge_of_matching_eq (Rule.matching_congr (h rule hrule)) config damages
    rw [evaluate, evaluate, refusal?_of_inRange hA hrangeA hrules,
      refusal?_of_inRange hB hrangeB hrules, hjudge]

theorem evaluate_of_rewords (h : A.Rewords rules B) (hrange : A.InRange config) :
    evaluate config A rules damages = evaluate config B rules damages := by
  by_cases hA : A = []
  · rw [hA, h.eq_nil_iff.1 hA]
  · have hB : B ≠ [] := fun hB => hA (h.eq_nil_iff.2 hB)
    have hrangeB : B.InRange config := fun hstrict r hr => hrange hstrict r (h.subset r hr)
    exact evaluate_of_agreeOn hA hB hrange hrangeB h.agreeOn

/-- Reports in range by some rules fail only at an entry that is out of its range. -/
theorem exists_atFault_of_evaluate (hA : A ≠ []) (hrange : A.InRange config) (hrules : rules ≠ [])
    {error : EvaluationError Binary64} (h : evaluate config A rules damages = .error error) :
    ∃ rule ∈ rules, ∃ entry ∈ rule.entries, entry.AtFault A ∧
      error = .expertOutOfRange rule.id entry.symptomId entry.cfExpert := by
  obtain ⟨tieBreak, strict⟩ := config
  cases strict with
  | false =>
    rcases evaluate_lenient_eq_error_iff.1 h with ⟨-, hnone⟩ | ⟨-, -, hnone⟩
    · exact absurd hnone hrules
    · exact absurd hnone hA
  | true =>
    cases evaluate_strict_eq_error_iff.1 h with
    | noRules hnone => exact absurd hnone hrules
    | noSymptoms _ hnone => exact absurd hnone hA
    | userOutOfRange _ hsplit houtside =>
      exact absurd (hrange rfl _ (hsplit ▸ List.mem_append_right _ List.mem_cons_self)) houtside
    | expertOutOfRange _ _ hsplit hentries hfault =>
      refine ⟨_, ?_, _, ?_, hfault, rfl⟩
      · rw [hsplit]
        exact List.mem_append_right _ List.mem_cons_self
      · rw [hentries]
        exact List.mem_append_right _ List.mem_cons_self

/-- An evaluation depends on a selection only by the first reports of the symptoms that rules name.
It is the same after every change that keeps these, for as long as all reports are in range; and
where there are reports and rules, it is a diagnosis or fails at an entry out of range. -/
theorem evaluate_first_reports (config : Config) (rules : List (Rule Binary64))
    (damages : List Damage) :
    (∀ A B : Selection Binary64, A.Rewords rules B → A.InRange config →
      evaluate config A rules damages = evaluate config B rules damages) ∧
    (∀ A B : Selection Binary64, A ≠ [] → B ≠ [] → A.InRange config → B.InRange config →
      A.AgreeOn rules B → evaluate config A rules damages = evaluate config B rules damages) ∧
    ∀ A : Selection Binary64, A ≠ [] → rules ≠ [] → A.InRange config →
      (∃ d, evaluate config A rules damages = .ok d) ∨
      ∃ rule ∈ rules, ∃ entry ∈ rule.entries, entry.AtFault A ∧
        evaluate config A rules damages =
          .error (.expertOutOfRange rule.id entry.symptomId entry.cfExpert) := by
  refine ⟨fun A B h hrange => evaluate_of_rewords h hrange,
    fun A B hA hB hrangeA hrangeB h => evaluate_of_agreeOn hA hB hrangeA hrangeB h, ?_⟩
  intro A hA hrules hrange
  cases hevaluate : evaluate config A rules damages with
  | ok d => exact .inl ⟨d, rfl⟩
  | error error =>
    obtain ⟨rule, hrule, entry, hentry, hfault, rfl⟩ :=
      exists_atFault_of_evaluate hA hrange hrules hevaluate
    exact .inr ⟨rule, hrule, entry, hentry, hfault, rfl⟩

end

/-- Two rules within the ranges, and one of a damage that is not listed. -/
def soundRules : List (Rule Binary64) :=
  [{ id := "R1", damageId := "K01", entries := [⟨"G01", 0.5, none⟩, ⟨"G02", 1, none⟩] },
    { id := "R2", damageId := "K99", entries := [⟨"G01", 1, none⟩] },
    { id := "R3", damageId := "K02", entries := [⟨"G02", 0.6, none⟩] }]

def soundDamages : List Damage :=
  [⟨"K01", "Fouled spark plug", "", ""⟩, ⟨"K02", "Dirty carburettor", "", ""⟩]

/-- A symptom reported twice, with one in between that no rule of `soundRules` names. -/
def wordySelection : Selection Binary64 :=
  [⟨"G01", 0.4⟩, ⟨"G09", 1⟩, ⟨"G01", 1⟩, ⟨"G02", 0.8⟩]

/-- What of it counts, the other way round. -/
def plainSelection : Selection Binary64 :=
  [⟨"G02", 0.8⟩, ⟨"G01", 0.4⟩]

theorem evaluate_first_reports_wordy :
    Selection.Rewords soundRules wordySelection [⟨"G01", 0.4⟩, ⟨"G09", 1⟩, ⟨"G02", 0.8⟩] ∧
      Selection.Rewords soundRules [⟨"G01", 0.4⟩, ⟨"G09", 1⟩, ⟨"G02", 0.8⟩]
        [⟨"G01", 0.4⟩, ⟨"G02", 0.8⟩] ∧
      Selection.Rewords soundRules [⟨"G01", 0.4⟩, ⟨"G02", 0.8⟩] plainSelection ∧
      wordySelection.InRange .strict ∧ plainSelection.InRange .strict ∧ wordySelection ≠ [] ∧
      plainSelection ≠ [] ∧ soundRules ≠ [] ∧ wordySelection.AgreeOn soundRules plainSelection ∧
      evaluate .strict wordySelection soundRules soundDamages =
        evaluate .strict [⟨"G01", 0.4⟩, ⟨"G09", 1⟩, ⟨"G02", 0.8⟩] soundRules soundDamages ∧
      evaluate .strict wordySelection soundRules soundDamages =
        evaluate .strict plainSelection soundRules soundDamages ∧
      ∃ d, evaluate .strict plainSelection soundRules soundDamages = .ok d ∧
        d.results.map (fun r => (r.damageId, r.percentage)) = [("K01", 84), ("K02", 48)] := by
  have hfirst : Selection.Rewords soundRules wordySelection
      [⟨"G01", 0.4⟩, ⟨"G09", 1⟩, ⟨"G02", 0.8⟩] :=
    .repeated [⟨"G01", 0.4⟩, ⟨"G09", 1⟩] [⟨"G02", 0.8⟩] ⟨"G01", 1⟩ ⟨_, List.mem_cons_self, rfl⟩
  have hsecond : Selection.Rewords soundRules [⟨"G01", 0.4⟩, ⟨"G09", 1⟩, ⟨"G02", 0.8⟩]
      [⟨"G01", 0.4⟩, ⟨"G02", 0.8⟩] :=
    .foreign [⟨"G01", 0.4⟩] [⟨"G02", 0.8⟩] ⟨"G09", 1⟩ (by decide +kernel) (List.cons_ne_nil _ _)
  have hthird : Selection.Rewords soundRules [⟨"G01", 0.4⟩, ⟨"G02", 0.8⟩] plainSelection :=
    .reordered (.swap _ _ _) (by decide +kernel)
  have hwordy : wordySelection.InRange .strict := fun _ => by decide +kernel
  have hplain : plainSelection.InRange .strict := fun _ => by decide +kernel
  have hagree : wordySelection.AgreeOn soundRules plainSelection := by
    intro rule hrule entry hentry cf
    rw [hfirst.agreeOn rule hrule entry hentry cf, hsecond.agreeOn rule hrule entry hentry cf]
    exact hthird.agreeOn rule hrule entry hentry cf
  obtain ⟨hreworded, hagreeing, hanswer⟩ := evaluate_first_reports .strict soundRules soundDamages
  refine ⟨hfirst, hsecond, hthird, hwordy, hplain, List.cons_ne_nil _ _, List.cons_ne_nil _ _,
    List.cons_ne_nil _ _, hagree, hreworded _ _ hfirst hwordy,
    hagreeing _ _ (List.cons_ne_nil _ _) (List.cons_ne_nil _ _) hwordy hplain hagree, ?_⟩
  have hsound : ∀ rule ∈ soundRules, ∀ entry ∈ rule.entries, ¬ entry.AtFault plainSelection := by
    decide +kernel
  rcases hanswer _ (List.cons_ne_nil _ _) (List.cons_ne_nil _ _) hplain with
    ⟨d, hok⟩ | ⟨rule, hrule, entry, hentry, hfault, -⟩
  · refine ⟨d, hok, ?_⟩
    rw [evaluate_eq_ok hok, results_diagnosisOf, rank_of_pairwise (by decide +kernel)]
    decide +kernel
  · exact absurd hfault (hsound rule hrule entry hentry)

end CertaintyFactor
