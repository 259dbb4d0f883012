import CertaintyFactor.Proofs.Evaluation.Candidates

/-!
# Evaluations that check ranges

Checking ranges puts a guard before an evaluation and changes nothing else. `Refuses` lists what the
guard objects to, in order of precedence: no rules, no reports, the first report out of the range of
users, the first reported entry out of the range of experts. The last of these is found only while
the rules are judged one after the other, but no verdict has a part in it.
-/

set_option autoImplicit false

namespace CertaintyFactor

/-! ## Entries out of range -/

section

variable {selection : Selection Binary64} {damages : List Damage} {tieBreak : TieBreak}

/-- An entry is reported although no expert may be as certain as it says. -/
def Rule.Entry.AtFault (selection : Selection Binary64) (entry : Rule.Entry Binary64) : Prop :=
  selection.Reports entry.symptomId ∧ ¬ entry.cfExpert.Within (-1) 1

instance (selection : Selection Binary64) : DecidablePred (Rule.Entry.AtFault selection) :=
  fun _ => inferInstanceAs (Decidable (_ ∧ _))

theorem Rule.Entry.any_match?_iff {entry : Rule.Entry Binary64} :
    (entry.match? selection).any (fun m => !Confidence.validExpert m.cfExpert) ↔
      entry.AtFault selection := by
  unfold AtFault
  rw [← isSome_match?_iff, ← Binary64.validExpert_iff]
  cases hm : entry.match? selection with
  | none => simp
  | some m => simp [(weighs_of_match? hm).cfExpert]

namespace Rule

/-- A rule is refused for its first entry at fault, and else judged by its verdict. -/
theorem judge_strict (rule : Rule Binary64) :
    rule.judge ⟨tieBreak, true⟩ selection damages =
      match rule.entries.find? (·.AtFault selection) with
      | some entry => .error (.expertOutOfRange rule.id entry.symptomId entry.cfExpert)
      | none => .ok (rule.verdict selection damages) := by
  have hfault : (fun entry : Rule.Entry Binary64 => (entry.match? selection).any
      fun m => !Confidence.validExpert m.cfExpert) = fun entry => entry.AtFault selection := by
    funext entry
    rw [Bool.eq_iff_iff, decide_eq_true_iff]
    exact Entry.any_match?_iff
  rw [judge, if_pos rfl, outOfRange?, matching, List.find?_filterMap, hfault]
  cases hfind : rule.entries.find? (·.AtFault selection) with
  | none => rfl
  | some entry =>
    -- The entry is reported, so it has a match, which names its symptom and certainty.
    have hentry : entry.AtFault selection := by simpa using List.find?_some hfind
    obtain ⟨m, hm⟩ := Option.isSome_iff_exists.1 (Entry.isSome_match?_iff.2 hentry.1)
    have hweighs := Entry.weighs_of_match? hm
    rw [Option.bind_some, hm]
    dsimp only
    rw [hweighs.symptomId, hweighs.cfExpert]

theorem judge_strict_eq_error_iff {rule : Rule Binary64} {error : EvaluationError Binary64} :
    rule.judge ⟨tieBreak, true⟩ selection damages = .error error ↔
      ∃ before entry after, rule.entries = before ++ entry :: after ∧ entry.AtFault selection ∧
        (∀ e ∈ before, ¬ e.AtFault selection) ∧
        error = .expertOutOfRange rule.id entry.symptomId entry.cfExpert := by
  rw [judge_strict]
  constructor
  · intro h
    cases hfind : rule.entries.find? (·.AtFault selection) with
    | none =>
      rw [hfind] at h
      cases h
    | some entry =>
      rw [hfind] at h
      obtain ⟨hentry, before, after, hsplit, hbefore⟩ := List.find?_eq_some_iff_append.1 hfind
      refine ⟨before, entry, after, hsplit, by simpa using hentry, ?_, (Except.error.inj h).symm⟩
      intro e he
      simpa using hbefore e he
  · rintro ⟨before, entry, after, hsplit, hentry, hbefore, rfl⟩
    have hfind : rule.entries.find? (·.AtFault selection) = some entry := by
      refine List.find?_eq_some_iff_append.2 ⟨by simpa using hentry, before, after, hsplit, ?_⟩
      intro e he
      simpa using hbefore e he
    rw [hfind]

theorem judge_strict_eq_ok {rule : Rule Binary64}
    (h : ∀ entry ∈ rule.entries, ¬ entry.AtFault selection) :
    rule.judge ⟨tieBreak, true⟩ selection damages = .ok (rule.verdict selection damages) := by
  have hfind : rule.entries.find? (·.AtFault selection) = none := by
    rw [List.find?_eq_none]
    intro entry hentry
    simpa using h entry hentry
  rw [judge_strict, hfind]

theorem exists_judge_strict_eq_ok_iff {rule : Rule Binary64} :
    (∃ verdict, rule.judge ⟨tieBreak, true⟩ selection damages = .ok verdict) ↔
      ∀ entry ∈ rule.entries, ¬ entry.AtFault selection := by
  constructor
  · rintro ⟨verdict, hverdict⟩ entry hentry hfault
    obtain ⟨found, hfound⟩ : ∃ found, rule.entries.find? (·.AtFault selection) = some found := by
      apply Option.isSome_iff_exists.1
      rw [List.find?_isSome]
      exact ⟨entry, hentry, by simpa using hfault⟩
    rw [judge_strict, hfound] at hverdict
    cases hverdict
  · intro h
    exact ⟨_, judge_strict_eq_ok h⟩

end Rule

/-! ## What is refused -/

/-- The reason for which an evaluation that checks ranges refuses a selection and some rules: the
first one that there is, in the order given here. -/
inductive Refuses (selection : Selection Binary64) (rules : List (Rule Binary64)) :
    EvaluationError Binary64 → Prop
  | noRules (hrules : rules = []) : Refuses selection rules .noRules
  | noSymptoms (hrules : rules ≠ []) (hselection : selection = []) :
      Refuses selection rules .noSymptoms
  | userOutOfRange (hrules : rules ≠ []) {before after : Selection Binary64} {r : Reported Binary64}
      (split : selection = before ++ r :: after) (outside : ¬ r.cfUser.Within 0 1)
      (first : ∀ b ∈ before, b.cfUser.Within 0 1) :
      Refuses selection rules (.userOutOfRange r.symptomId r.cfUser)
  | expertOutOfRange (hselection : selection ≠ []) (users : ∀ r ∈ selection, r.cfUser.Within 0 1)
      {earlier later : List (Rule Binary64)} {rule : Rule Binary64}
      {before after : List (Rule.Entry Binary64)} {entry : Rule.Entry Binary64}
      (split : rules = earlier ++ rule :: later)
      (entries : rule.entries = before ++ entry :: after) (atFault : entry.AtFault selection)
      (firstRule : ∀ r ∈ earlier, ∀ e ∈ r.entries, ¬ e.AtFault selection)
      (firstEntry : ∀ e ∈ before, ¬ e.AtFault selection) :
      Refuses selection rules (.expertOutOfRange rule.id entry.symptomId entry.cfExpert)

theorem evaluate_of_noRules (config : Config) (selection : Selection Binary64)
    (damages : List Damage) : evaluate config selection [] damages = .error .noRules :=
  rfl

theorem evaluate_of_noSymptoms (config : Config) {rules : List (Rule Binary64)}
    (hrules : rules ≠ []) (damages : List Damage) :
    evaluate config [] rules damages = .error .noSymptoms := by
  have hrefusal : refusal? config [] rules = some .noSymptoms := by
    rw [refusal?, if_neg (by simpa using hrules)]
    rfl
  rw [evaluate, hrefusal]

theorem evaluate_eq_error_of_refusal? {config : Config} {rules : List (Rule Binary64)}
    {error : EvaluationError Binary64} (h : refusal? config selection rules = some error) :
    evaluate config selection rules damages = .error error := by
  rw [evaluate, h]

/-- An evaluation that may start fails just if a rule is not judged. -/
theorem evaluate_eq_error_iff {config : Config} {rules : List (Rule Binary64)}
    (hstart : refusal? config selection rules = none) {error : EvaluationError Binary64} :
    evaluate config selection rules damages = .error error ↔
      rules.mapM (Rule.judge config selection damages) = .error error := by
  rw [evaluate, hstart]
  show (rules.mapM _ >>= _) = _ ↔ _
  cases rules.mapM (Rule.judge config selection damages) <;>
    simp [bind, Except.bind, pure, Except.pure]

/-- The first report out of range keeps an evaluation from starting. -/
theorem refusal?_strict {rules : List (Rule Binary64)} (hrules : rules ≠ [])
    {before after : Selection Binary64} {r : Reported Binary64}
    (hsplit : selection = before ++ r :: after) (houtside : ¬ r.cfUser.Within 0 1)
    (hfirst : ∀ b ∈ before, b.cfUser.Within 0 1) :
    refusal? ⟨tieBreak, true⟩ selection rules = some (.userOutOfRange r.symptomId r.cfUser) := by
  have hselection : selection ≠ [] := by
    rw [hsplit]
    exact List.append_ne_nil_of_right_ne_nil _ (List.cons_ne_nil _ _)
  have hfind : selection.outOfRange? = some r := by
    refine List.find?_eq_some_iff_append.2 ⟨?_, before, after, hsplit, fun b hb => ?_⟩
    · simpa using fun h => houtside (Binary64.validUser_iff.1 h)
    · simpa [Binary64.validUser_iff] using hfirst b hb
  rw [refusal?, if_neg (by simpa using hrules), if_neg (by simpa using hselection), if_pos rfl,
    hfind]
  rfl

/-- The first item that fails a check, if one does. -/
theorem exists_first {α : Type} {p : α → Prop} [DecidablePred p] {items : List α}
    (h : ¬ ∀ a ∈ items, p a) :
    ∃ before a after, items = before ++ a :: after ∧ ¬ p a ∧ ∀ b ∈ before, p b := by
  obtain ⟨a, ha⟩ : ∃ a, items.find? (fun a => ¬ p a) = some a := by
    apply Option.isSome_iff_exists.1
    rw [List.find?_isSome]
    simpa using h
  obtain ⟨hfails, before, after, hsplit, hbefore⟩ := List.find?_eq_some_iff_append.1 ha
  refine ⟨before, a, after, hsplit, by simpa using hfails, fun b hb => ?_⟩
  simpa using hbefore b hb

theorem evaluate_strict_eq_error_iff {rules : List (Rule Binary64)}
    {error : EvaluationError Binary64} :
    evaluate ⟨tieBreak, true⟩ selection rules damages = .error error ↔
      Refuses selection rules error := by
  constructor
  · intro h
    by_cases hrules : rules = []
    · rw [hrules, evaluate_of_noRules] at h
      obtain rfl := Except.error.inj h
      exact .noRules hrules
    · by_cases hselection : selection = []
      · rw [hselection, evaluate_of_noSymptoms _ hrules] at h
        obtain rfl := Except.error.inj h
        exact .noSymptoms hrules hselection
      · by_cases husers : ∀ r ∈ selection, r.cfUser.Within 0 1
        · have hstart : refusal? ⟨tieBreak, true⟩ selection rules = none :=
            refusal?_eq_none hselection hrules fun _ r hr =>
              Binary64.validUser_iff.2 (husers r hr)
          rw [evaluate_eq_error_iff hstart] at h
          obtain ⟨earlier, rule, later, hsplit, hrule, hearlier⟩ := mapM_eq_error_iff.1 h
          obtain ⟨before, entry, after, hentries, hentry, hbefore, rfl⟩ :=
            Rule.judge_strict_eq_error_iff.1 hrule
          refine .expertOutOfRange hselection husers hsplit hentries hentry ?_ hbefore
          intro r hr
          exact Rule.exists_judge_strict_eq_ok_iff.1 (hearlier r hr)
        · obtain ⟨before, r, after, hsplit, houtside, hfirst⟩ := exists_first husers
          rw [evaluate_eq_error_of_refusal? (refusal?_strict hrules hsplit houtside hfirst)] at h
          obtain rfl := Except.error.inj h
          exact .userOutOfRange hrules hsplit houtside hfirst
  · intro h
    cases h with
    | noRules hrules => rw [hrules, evaluate_of_noRules]
    | noSymptoms hrules hselection => rw [hselection, evaluate_of_noSymptoms _ hrules]
    | userOutOfRange hrules hsplit houtside hfirst =>
      exact evaluate_eq_error_of_refusal? (refusal?_strict hrules hsplit houtside hfirst)
    | expertOutOfRange hselection husers hsplit hentries hfault hrules hbefore =>
      have hne : rules ≠ [] := by
        rw [hsplit]
        exact List.append_ne_nil_of_right_ne_nil _ (List.cons_ne_nil _ _)
      have hstart : refusal? ⟨tieBreak, true⟩ selection rules = none :=
        refusal?_eq_none hselection hne fun _ r hr => Binary64.validUser_iff.2 (husers r hr)
      rw [evaluate_eq_error_iff hstart, mapM_eq_error_iff]
      refine ⟨_, _, _, hsplit, ?_, fun r hr => ?_⟩
      · exact Rule.judge_strict_eq_error_iff.2 ⟨_, _, _, hentries, hfault, hbefore, rfl⟩
      · exact Rule.exists_judge_strict_eq_ok_iff.2 (hrules r hr)

theorem evaluate_lenient_eq_error_iff {rules : List (Rule Binary64)}
    {error : EvaluationError Binary64} :
    evaluate ⟨tieBreak, false⟩ selection rules damages = .error error ↔
      error = .noRules ∧ rules = [] ∨ error = .noSymptoms ∧ rules ≠ [] ∧ selection = [] := by
  by_cases hrules : rules = []
  · rw [hrules, evaluate_of_noRules]
    simp [eq_comm]
  · by_cases hselection : selection = []
    · rw [hselection, evaluate_of_noSymptoms _ hrules]
      simp [hrules, eq_comm]
    · rw [evaluate_lenient rfl hselection hrules damages]
      simp [hrules, hselection]

/-- Checking ranges is a guard before the same evaluation: it refuses for the reasons of `Refuses`,
and where there is none it changes nothing. Without it, only an evaluation without rules or without
reports is refused. -/
theorem evaluate_strict_guards (tieBreak : TieBreak) (selection : Selection Binary64)
    (rules : List (Rule Binary64)) (damages : List Damage) :
    (∀ error, evaluate ⟨tieBreak, true⟩ selection rules damages = .error error ↔
      Refuses selection rules error) ∧
    ((∀ error, ¬ Refuses selection rules error) →
      evaluate ⟨tieBreak, true⟩ selection rules damages =
        evaluate ⟨tieBreak, false⟩ selection rules damages) ∧
    ∀ error, evaluate ⟨tieBreak, false⟩ selection rules damages = .error error ↔
      error = .noRules ∧ rules = [] ∨ error = .noSymptoms ∧ rules ≠ [] ∧ selection = [] := by
  refine ⟨fun error => evaluate_strict_eq_error_iff, fun hnone => ?_,
    fun error => evaluate_lenient_eq_error_iff⟩
  have hrules : rules ≠ [] := fun h => hnone _ (.noRules h)
  have hselection : selection ≠ [] := fun h => hnone _ (.noSymptoms hrules h)
  cases hstrict : evaluate ⟨tieBreak, true⟩ selection rules damages with
  | error error => exact absurd (evaluate_strict_eq_error_iff.1 hstrict) (hnone error)
  | ok d => rw [evaluate_eq_ok hstrict, evaluate_lenient rfl hselection hrules]

end

end CertaintyFactor
