import CertaintyFactor.Proofs.Decimal.Numeral
import CertaintyFactor.Selection.Argument

/-!
# Reports typed and read

A report that is typed as a code, an equals sign and a number is read as that report, with blanks
anywhere around the two and for every number. Whatever is read as a report has a code that can be
typed so, and typed again it is the same report (`Reported.parse_argument`). An argument is divided
at its first equals sign, and its parts are trimmed, so a code may be anything else that begins and
ends without a blank.
-/

set_option autoImplicit false

namespace CertaintyFactor.Reported

open Text (IsGap IsTrimmed isBlank trim)

/-- A code that can be typed: there is something to it, but no equals sign, and no blank at either
end. -/
structure IsCode (code : String) : Prop where
  ne_empty : code ≠ ""
  no_equals : '=' ∉ code.toList
  isTrimmed : IsTrimmed code.toList

instance (code : String) : Decidable (IsCode code) :=
  decidable_of_iff (code ≠ "" ∧ '=' ∉ code.toList ∧ IsTrimmed code.toList)
    ⟨fun h => ⟨h.1, h.2.1, h.2.2⟩, fun h => ⟨h.ne_empty, h.no_equals, h.isTrimmed⟩⟩

/-! ## The first equals sign -/

theorem splitArgument_of_mem {code : List Char} (h : '=' ∉ code) (value : List Char) :
    splitArgument (code ++ '=' :: value) = (code, some value) := by
  have hcode : ∀ c ∈ code, decide (c ≠ '=') = true := by
    intro c hc
    rw [decide_eq_true_eq]
    rintro rfl
    exact h hc
  have htake : (code ++ '=' :: value).takeWhile (· ≠ '=') = code := by
    rw [List.takeWhile_append_of_pos hcode, List.takeWhile_cons_of_neg (by decide),
      List.append_nil]
  have hdrop : (code ++ '=' :: value).dropWhile (· ≠ '=') = '=' :: value := by
    rw [List.dropWhile_append_of_pos hcode, List.dropWhile_cons_of_neg (by decide)]
  rw [splitArgument, List.span_eq_takeWhile_dropWhile, htake, hdrop]

theorem not_mem_splitArgument (text : List Char) : '=' ∉ (splitArgument text).1 := by
  have hcode : (splitArgument text).1 = text.takeWhile (· ≠ '=') := by
    rw [splitArgument, List.span_eq_takeWhile_dropWhile]
    split <;> next h => exact (Prod.mk.inj h).1.symm
  rw [hcode]
  intro hmem
  have hne := List.mem_takeWhile_imp hmem
  simp at hne

/-! ## Reading -/

/-- What it takes for a text to be read as a report. -/
theorem parse_eq_ok_iff {text : String} {r : Reported Binary64} :
    parse text = .ok r ↔ argumentCertainty? (splitArgument text.toList).2 = some r.cfUser ∧
      trim (splitArgument text.toList).1 = r.symptomId.toList ∧ r.symptomId ≠ "" := by
  obtain ⟨id, x⟩ := r
  unfold parse
  generalize splitArgument text.toList = parts
  obtain ⟨code, value⟩ := parts
  dsimp only
  cases argumentCertainty? value with
  | none => simp
  | some cf =>
    have hid : String.ofList (trim code) = id ↔ trim code = id.toList := by
      rw [← String.toList_inj, String.toList_ofList]
    by_cases hcode : trim code = []
    · simp only [hcode, List.isEmpty_nil, if_true, reduceCtorEq, false_iff, not_and, not_not]
      intro _ hempty
      exact String.toList_eq_nil_iff.1 hempty.symm
    · have hne : trim code = id.toList → id ≠ "" := by
        rintro htrim rfl
        exact hcode htrim
      simp only [List.isEmpty_iff, hcode, if_false, Except.ok.injEq, mk.injEq, hid,
        Option.some.injEq]
      exact ⟨fun h => ⟨h.2, h.1, hne h.1⟩, fun h => ⟨h.2.1, h.1⟩⟩

theorem isCode_of_parse {text : String} {r : Reported Binary64} (h : parse text = .ok r) :
    IsCode r.symptomId := by
  obtain ⟨-, hcode, hne⟩ := parse_eq_ok_iff.1 h
  refine ⟨hne, fun hmem => ?_, hcode ▸ Text.isTrimmed_trim _⟩
  rw [← hcode] at hmem
  exact not_mem_splitArgument _ ((Text.trim_sublist _).subset hmem)

/-- The text of a number is trimmed to itself, so blanks around it do not matter. -/
theorem argumentCertainty?_text (x : Binary64) {ahead after : List Char} (hahead : IsGap ahead)
    (hafter : IsGap after) :
    argumentCertainty? (some (ahead ++ ((Decimal.Layout.plain.text x).toList ++ after))) =
      some x := by
  have htrimmed := Text.isTrimmed_of_forall (Decimal.Numeral.isBlank_text x)
  have hne : (Decimal.Layout.plain.text x).toList ≠ [] := by
    intro hnil
    have hread := Decimal.Numeral.read?_text x
    rw [hnil] at hread
    cases hread
  rw [argumentCertainty?, htrimmed.trim_append hne hahead hafter, Decimal.Numeral.read?_text]

/-- A report that is typed, with blanks wherever they may stand, is read. -/
theorem parse_spaced {r : Reported Binary64} (h : IsCode r.symptomId)
    {before behind ahead after : String} (hbefore : IsGap before.toList)
    (hbehind : IsGap behind.toList) (hahead : IsGap ahead.toList) (hafter : IsGap after.toList) :
    parse (before ++ r.symptomId ++ behind ++ "=" ++ ahead ++
      Decimal.Layout.plain.text r.cfUser ++ after) = .ok r := by
  have hblank : isBlank '=' = false := by decide
  have hcode : '=' ∉ before.toList ++ (r.symptomId.toList ++ behind.toList) := by
    simp only [List.mem_append, not_or]
    refine ⟨fun hmem => ?_, h.no_equals, fun hmem => ?_⟩
    · cases hblank.symm.trans (hbefore _ hmem)
    · cases hblank.symm.trans (hbehind _ hmem)
  have htext : (before ++ r.symptomId ++ behind ++ "=" ++ ahead ++
      Decimal.Layout.plain.text r.cfUser ++ after).toList =
        (before.toList ++ (r.symptomId.toList ++ behind.toList)) ++ '=' ::
          (ahead.toList ++ ((Decimal.Layout.plain.text r.cfUser).toList ++ after.toList)) := by
    simp [String.toList_append]
  have hne : r.symptomId.toList ≠ [] := fun hnil => h.ne_empty (String.toList_eq_nil_iff.1 hnil)
  rw [parse_eq_ok_iff, htext, splitArgument_of_mem hcode]
  exact ⟨argumentCertainty?_text r.cfUser hahead hafter,
    h.isTrimmed.trim_append hne hbefore hbehind, h.ne_empty⟩

/-- A report typed without blanks. -/
theorem parse_argument_self {r : Reported Binary64} (h : IsCode r.symptomId) :
    parse r.argument = .ok r := by
  have hgap : IsGap "".toList := nofun
  have hread := parse_spaced h hgap hgap hgap hgap
  simp only [String.empty_append, String.append_empty] at hread
  exact hread

/-- Reports survive being typed. One with a code that can be typed is read from each of its typed
forms, bit for bit. What is read from any text at all is a report with such a code, which is read
again from its plain typed form. -/
theorem parse_argument (r : Reported Binary64) :
    (IsCode r.symptomId → ∀ before behind ahead after : String, IsGap before.toList →
      IsGap behind.toList → IsGap ahead.toList → IsGap after.toList →
        parse (before ++ r.symptomId ++ behind ++ "=" ++ ahead ++
          Decimal.Layout.plain.text r.cfUser ++ after) = .ok r) ∧
    ∀ text, parse text = .ok r → IsCode r.symptomId ∧ parse r.argument = .ok r := by
  constructor
  · intro h _ _ _ _ hbefore hbehind hahead hafter
    exact parse_spaced h hbefore hbehind hahead hafter
  · intro text h
    have hcode := isCode_of_parse h
    exact ⟨hcode, parse_argument_self hcode⟩

/-- Negative zero, typed among blanks of several kinds and read again with its sign; and a code
alone, which is read with the preselected answer and stays so when it is typed out. -/
theorem parse_argument_spaced :
    IsCode "G 01" ∧ IsGap "\u3000".toList ∧ IsGap "\t".toList ∧ IsGap "\u00a0 ".toList ∧
      IsGap "\u2028".toList ∧
      parse "\u3000G 01\t=\u00a0 -0\u2028" = .ok ⟨"G 01", .signed true .zero⟩ ∧
      parse " G03 " = .ok ⟨"G03", 0.6⟩ ∧ parse "G03=0.6" = .ok ⟨"G03", 0.6⟩ := by
  have hcode : IsCode "G 01" := by decide
  have hbefore : IsGap "\u3000".toList := by decide
  have hbehind : IsGap "\t".toList := by decide
  have hahead : IsGap "\u00a0 ".toList := by decide
  have hafter : IsGap "\u2028".toList := by decide
  have htyped := (parse_argument ⟨"G 01", .signed true .zero⟩).1 hcode _ _ _ _ hbefore hbehind
    hahead hafter
  have hbare : parse " G03 " = .ok ⟨"G03", 0.6⟩ := by decide +kernel
  have hagain := ((parse_argument ⟨"G03", 0.6⟩).2 _ hbare).2
  have hminus : Decimal.Layout.plain.text (.signed true .zero) = "-0" := by decide +kernel
  have htext : argument ⟨"G03", 0.6⟩ = "G03=0.6" := by decide +kernel
  dsimp only at htyped
  rw [hminus] at htyped
  rw [htext] at hagain
  exact ⟨hcode, hbefore, hbehind, hahead, hafter, htyped, hbare, hagain⟩

end CertaintyFactor.Reported
