import CertaintyFactor.Proofs.Binary64.Difference
import CertaintyFactor.Proofs.Evaluation.Reports
import CertaintyFactor.Proofs.Service.Echo
import CertaintyFactor.Proofs.Traversal

/-!
# Answers and the certainties they are given for

A report is echoed with an answer if its certainty is near that of the answer, which need not be
the same number. Answers are far enough apart for no certainty to be near two of them. So an echo in
which each certainty is replaced by that of its answer is the same echo, and is diagnosed alike,
just if no certainty in it is near an answer without being that answer's
(`Service.outcome_answered`).
-/

set_option autoImplicit false

namespace CertaintyFactor

open Binary64 (IsNear)

namespace Answer

/-! ## Near an answer -/

theorem mem_all (a : Answer) : a ∈ all := by
  cases a <;> decide

theorem exists_units?_tolerance : ∃ w, tolerance.units? = some w :=
  Option.isSome_iff_exists.1 (by decide +kernel)

theorem exists_units?_certainty (a : Answer) : ∃ v, a.certainty.units? = some v := by
  apply Option.isSome_iff_exists.1
  cases a <;> decide +kernel

/-- The tolerance is small against every answer and against the distance of two of them. -/
theorem room_of_units? : ∀ w ∈ tolerance.units?, 0 < w ∧ ∀ a ∈ all, ∀ v ∈ a.certainty.units?,
    2 * w ≤ v ∧ ∀ b ∈ all, ∀ v' ∈ b.certainty.units?, a = b ∨ 2 * w ≤ |v - v'| := by
  decide +kernel

theorem isNear_certainty (a : Answer) : a.certainty.IsNear a.certainty tolerance := by
  obtain ⟨w, hw⟩ := exists_units?_tolerance
  obtain ⟨v, hv⟩ := exists_units?_certainty a
  exact Binary64.isNear_self hv hw (room_of_units? w hw).1

/-- A certainty is near one answer at most. -/
theorem eq_of_isNear {x : Binary64} {a b : Answer} (ha : x.IsNear a.certainty tolerance)
    (hb : x.IsNear b.certainty tolerance) : a = b := by
  obtain ⟨u, v, w, hu, hv, hw, hnear⟩ := ha
  obtain ⟨u', v', w', hu', hv', hw', hnear'⟩ := hb
  obtain rfl := Option.some.inj (hu.symm.trans hu')
  obtain rfl := Option.some.inj (hw.symm.trans hw')
  obtain ⟨-, hroom⟩ := (room_of_units? w hw).2 a (mem_all a) v hv
  refine (hroom b (mem_all b) v' hv').resolve_right fun hfar => ?_
  rw [Int.abs_eq_natAbs] at hnear hnear' hfar
  omega

theorem abs_sub_lt_tolerance_iff (a : Answer) (x : Binary64) :
    (a.certainty - x).abs.lt tolerance ↔ x.IsNear a.certainty tolerance := by
  obtain ⟨w, hw⟩ := exists_units?_tolerance
  obtain ⟨v, hv⟩ := exists_units?_certainty a
  obtain ⟨hpos, hroom⟩ := room_of_units? w hw
  exact Binary64.abs_sub_lt_iff hv hw hpos (hroom a (mem_all a) v hv).1 x

theorem ofCertainty?_eq_some_iff {x : Binary64} {a : Answer} :
    ofCertainty? x = some a ↔ x.IsNear a.certainty tolerance := by
  have hsound {b : Answer} (h : ofCertainty? x = some b) : x.IsNear b.certainty tolerance := by
    have hlt := List.find?_some h
    exact (abs_sub_lt_tolerance_iff b x).1 hlt
  constructor
  · exact hsound
  · intro h
    obtain ⟨b, hb⟩ : ∃ b, ofCertainty? x = some b := by
      rw [← Option.isSome_iff_exists, ofCertainty?, List.find?_isSome]
      exact ⟨a, mem_all a, (abs_sub_lt_tolerance_iff a x).2 h⟩
    rw [hb, eq_of_isNear (hsound hb) h]

end Answer

/-! ## Echoes -/

namespace NamedSelection

/-- The report that is echoed. -/
def report (n : NamedSelection) : Reported Binary64 :=
  ⟨n.symptomId, n.cfUser⟩

/-- The report with the certainty of the answer it is echoed with, if there is one. -/
def answered (n : NamedSelection) : Reported Binary64 :=
  ⟨n.symptomId, (n.answer.map Answer.certainty).getD n.cfUser⟩

theorem report_named (r : Reported Binary64) (symptom : Option Symptom) :
    (r.named symptom).report = r :=
  rfl

theorem answered_eq_report_iff {n : NamedSelection} :
    n.answered = n.report ↔ ∀ a, n.answer = some a → n.cfUser = a.certainty := by
  obtain ⟨id, name, cf, answer⟩ := n
  cases answer with
  | none => simp [answered, report]
  | some a => simpa [answered, report] using eq_comm

end NamedSelection

namespace Service

variable {config : Config} {snapshot : Snapshot Binary64} {selection : Selection Binary64}
  {o : Outcome}

/-- First reports first report the same. -/
theorem certainty?_firstReports (selection : Selection Binary64) (id : String) :
    (firstReports selection).certainty? id = selection.certainty? id := by
  ext cf
  rw [Selection.certainty?_eq_some_iff_mem (nodup_firstReports selection)]
  constructor
  · intro hmem
    have hfind : selection.find? (·.symptomId == id) = some ⟨id, cf⟩ :=
      (mem_freshItems_iff.1 hmem).2
    rw [Selection.certainty?, hfind]
    rfl
  · exact mem_firstReports

/-- A selection that is diagnosed was not refused. -/
theorem inRange_of_evaluate {rules : List (Rule Binary64)} {damages : List Damage}
    {d : Diagnosis Binary64} (h : evaluate config selection rules damages = .ok d) :
    selection ≠ [] ∧ selection.InRange config := by
  obtain ⟨-, hselection, hvalid⟩ := refusal?_eq_none_iff.1 (evaluate_eq_ok_iff.1 h).1
  exact ⟨hselection, fun hstrict r hr => Binary64.validUser_iff.1 (hvalid hstrict r hr)⟩

theorem evaluate_firstReports {rules : List (Rule Binary64)} {damages : List Damage}
    {d : Diagnosis Binary64} (h : evaluate config selection rules damages = .ok d) :
    evaluate config (firstReports selection) rules damages = .ok d := by
  obtain ⟨hselection, hrange⟩ := inRange_of_evaluate h
  have hagree : selection.AgreeOn rules (firstReports selection) := by
    rw [Selection.agreeOn_iff]
    intro rule _ entry _
    exact (certainty?_firstReports selection entry.symptomId).symm
  rw [← evaluate_of_agreeOn hselection (mt firstReports_eq_nil_iff.1 hselection) hrange
    (fun hstrict r hr => hrange hstrict r (mem_of_mem_firstReports hr)) hagree, h]

theorem selection_of_outcome (h : outcome config snapshot selection = .ok o) :
    o.selection = (firstReports selection).map fun r =>
      r.named (snapshot.symptom? r.symptomId) := by
  obtain ⟨d, -, rfl⟩ := outcome_eq_ok_iff.1 h
  rfl

/-- Repeated reports make no difference to an outcome. -/
theorem outcome_firstReports (h : outcome config snapshot selection = .ok o) :
    outcome config snapshot (firstReports selection) = .ok o := by
  obtain ⟨d, hd, rfl⟩ := outcome_eq_ok_iff.1 h
  refine outcome_eq_ok_iff.2 ⟨d, evaluate_firstReports hd, ?_⟩
  rw [firstReports_eq_self (nodup_firstReports selection)]

/-- Putting answers for certainties leaves an outcome alone only if it changes no report. -/
theorem outcome_answered_iff (h : outcome config snapshot selection = .ok o) :
    outcome config snapshot (o.selection.map (·.answered)) = .ok o ↔
      ∀ n ∈ o.selection, n.answered = n.report := by
  have hselection := selection_of_outcome h
  have hreports : o.selection.map (·.report) = firstReports selection := by
    rw [hselection, List.map_map]
    exact List.map_id'' (fun r => NamedSelection.report_named r _) _
  constructor
  · intro hsame n hn
    have hids : ((o.selection.map (·.answered)).map (·.symptomId)).Nodup := by
      have hnodup := nodup_firstReports selection
      rw [← hreports, List.map_map] at hnodup
      rwa [List.map_map]
    have hecho := selection_of_outcome hsame
    rw [firstReports_eq_self hids] at hecho
    have hmap := congrArg (List.map (·.report)) hecho
    rw [List.map_map, List.map_map] at hmap
    exact (List.map_inj_left.1 hmap n hn).symm
  · intro hsame
    rw [List.map_congr_left hsame, hreports]
    exact outcome_firstReports h

/-- What answers stand for. A certainty is echoed with an answer if its exact value is less than the
tolerance away from that of the answer, and with no other. So those with an answer are the answers'
own certainties just if none is merely near one; and in an echo it takes that of each report for the
reports to be the same, and diagnosed alike, with the certainties of their answers. -/
theorem outcome_answered (x : Binary64) (config : Config) (snapshot : Snapshot Binary64)
    (selection : Selection Binary64) :
    (∀ (id : String) (symptom : Option Symptom) (a : Answer),
      (Reported.named ⟨id, x⟩ symptom).answer = some a ↔
        x.IsNear a.certainty Answer.tolerance) ∧
    ((∀ a, Answer.ofCertainty? x = some a ↔ x = a.certainty) ↔
      ∀ a : Answer, x.IsNear a.certainty Answer.tolerance → x = a.certainty) ∧
    ∀ o : Outcome, outcome config snapshot selection = .ok o →
      (outcome config snapshot (o.selection.map (·.answered)) = .ok o ↔
        ∀ n ∈ o.selection, ∀ a : Answer,
          n.cfUser.IsNear a.certainty Answer.tolerance → n.cfUser = a.certainty) := by
  refine ⟨fun id symptom a => Answer.ofCertainty?_eq_some_iff, ?_, fun o h => ?_⟩
  · simp only [Answer.ofCertainty?_eq_some_iff]
    refine forall_congr' fun a => ⟨Iff.mp, fun himp => ⟨himp, ?_⟩⟩
    rintro rfl
    exact Answer.isNear_certainty a
  · rw [outcome_answered_iff h]
    refine forall₂_congr fun n hn => ?_
    rw [selection_of_outcome h] at hn
    obtain ⟨r, -, rfl⟩ := List.mem_map.1 hn
    rw [NamedSelection.answered_eq_report_iff]
    exact forall_congr' fun a => imp_congr_left Answer.ofCertainty?_eq_some_iff

/-- A catalog with one rule, whose percentage is about to turn where its symptom is fairly sure. -/
def turningCatalog : Catalog Binary64 where
  symptoms := [⟨"G01", "Engine hard to start", ""⟩]
  damages := [⟨"K01", "Fouled spark plug", "", "Replace the plug"⟩]
  rules := [⟨"R1", "K01", [⟨"G01", 0.875⟩]⟩]

/-- A report of a little less than fairly sure is echoed as fairly sure, which is diagnosed with
another percentage; a report of just that keeps its diagnosis. -/
theorem outcome_answered_turning :
    let snapshot := turningCatalog.snapshot 0
    (0.5999999999 : Binary64).IsNear Answer.fairlySure.certainty Answer.tolerance ∧
      (∃ o, outcome {} snapshot [⟨"G01", 0.5999999999⟩] = .ok o ∧
        o.results.map (·.percentage) = [52] ∧ o.selection.map (·.answered) = [⟨"G01", 0.6⟩] ∧
        outcome {} snapshot [⟨"G01", 0.6⟩] ≠ .ok o) ∧
      ∃ o, outcome {} snapshot [⟨"G01", 0.6⟩] = .ok o ∧ o.results.map (·.percentage) = [53] ∧
        outcome {} snapshot (o.selection.map (·.answered)) = .ok o := by
  intro snapshot
  obtain ⟨hanswer, -, hechoes⟩ := outcome_answered 0.5999999999 {} snapshot [⟨"G01", 0.5999999999⟩]
  have hnear : (0.5999999999 : Binary64).IsNear Answer.fairlySure.certainty Answer.tolerance :=
    (hanswer "G01" none .fairlySure).1 (by decide +kernel)
  refine ⟨hnear, ?_, ?_⟩
  · have hrun : (outcome {} snapshot [⟨"G01", 0.5999999999⟩]).toOption.map
        (fun o => (o.results.map (·.percentage), o.selection.map (·.answered),
          o.selection.map (·.cfUser))) = some ([52], [⟨"G01", 0.6⟩], [0.5999999999]) := by
      decide +kernel
    obtain ⟨o, ho, hshown⟩ := Option.map_eq_some_iff.1 hrun
    obtain ⟨hpercentage, hrest⟩ := Prod.mk.inj hshown
    obtain ⟨hanswered, hcertainty⟩ := Prod.mk.inj hrest
    have houtcome := toOption_eq_some_iff.1 ho
    refine ⟨o, houtcome, hpercentage, hanswered, fun hsame => ?_⟩
    rw [← hanswered, hechoes o houtcome] at hsame
    obtain ⟨n, hn, hcf⟩ := List.mem_map.1 (hcertainty ▸ List.mem_singleton_self 0.5999999999)
    have heq := hsame n hn .fairlySure (hcf ▸ hnear)
    rw [hcf] at heq
    exact absurd heq (by decide +kernel)
  · have hrun : (outcome {} snapshot [⟨"G01", 0.6⟩]).toOption.map
        (fun o => (o.results.map (·.percentage), o.selection.map (·.cfUser))) =
          some ([53], [0.6]) := by decide +kernel
    obtain ⟨o, ho, hshown⟩ := Option.map_eq_some_iff.1 hrun
    obtain ⟨hpercentage, hcertainty⟩ := Prod.mk.inj hshown
    have houtcome := toOption_eq_some_iff.1 ho
    obtain ⟨-, -, hexact⟩ := outcome_answered 0.6 {} snapshot [⟨"G01", 0.6⟩]
    refine ⟨o, houtcome, hpercentage, (hexact o houtcome).2 fun n hn a hnear => ?_⟩
    have hcf : n.cfUser ∈ o.selection.map (·.cfUser) := List.mem_map_of_mem hn
    rw [hcertainty, List.mem_singleton] at hcf
    rw [hcf] at hnear ⊢
    rw [Answer.eq_of_isNear hnear (Answer.isNear_certainty .fairlySure)]
    rfl

end Service

end CertaintyFactor
