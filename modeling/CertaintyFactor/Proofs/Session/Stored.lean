import CertaintyFactor.Proofs.Evaluation.Ranking
import CertaintyFactor.Proofs.Json.ShortNumber
import CertaintyFactor.Proofs.Session.Framing
import CertaintyFactor.Proofs.Session.Recorded

/-!
# Records found as stored

A record of finite certainties that was added to a store is found in it again, behind those that
were there: the same record, but that each certainty is what its own text is read as. Numbers are
read quickly rather than exactly, so this need not be the number that was written, and the record is
the one that was answered just when each of its certainties is read as it is. Certainties of few
digits all are (`Binary64.reread_of_isShort`).
-/

set_option autoImplicit false

namespace CertaintyFactor.Session

namespace Record

/-- A record with its certainties as they are read again. -/
def reread (r : Record) : Record :=
  { r with summary := r.summary.mapCertainties Binary64.reread }

theorem reread?_eq {r : Record} (h : r.summary.IsFinite) : r.reread? = some r.reread := by
  rw [reread?, Summary.reread?_eq h]
  rfl

theorem reread_eq_self_iff {r : Record} :
    r.reread = r ↔ ∀ cf ∈ r.summary.certainties, cf.reread = cf := by
  rw [← Summary.mapCertainties_eq_self_iff]
  constructor
  · exact congrArg Record.summary
  · intro h
    rw [reread, h]

theorem reread_of_isShort {r : Record} (h : ∀ cf ∈ r.summary.certainties, cf.IsShort) :
    r.reread = r :=
  reread_eq_self_iff.2 fun cf hcf => Binary64.reread_of_isShort (h cf hcf)

end Record

/-- Any file of text, or none, is opened as a store and records of finite certainties are added.
What is read of it then are the records it had and, behind them and in order, those that were
answered, with their certainties as they are read again. Such a record is the one that was answered
just when these are the certainties that were stored, and so it is whenever these are written with
few digits. -/
theorem readAll_of_added {path text : String} {tree opened new : FileTree} {s t : Store}
    {rs answers : List Record}
    (hfile : tree.read path = .ok text.toUTF8 ∨ tree.bytes? path = none ∧ text = "")
    (hopen : (Store.openAt path : StateM FileTree _).run tree = (.ok s, opened))
    (hrun : Recorded s opened rs answers t new) (hne : rs ≠ []) (hvalid : ∀ r ∈ rs, r.IsValid)
    (hfinite : ∀ r ∈ rs, r.summary.IsFinite) :
    answers = rs ∧
      (t.readAll : StateM FileTree _).run new =
        (.ok (Contents.recordsOf text ++ answers.map Record.reread), new) ∧
      ∀ r ∈ answers, (r.reread = r ↔ ∀ cf ∈ r.summary.certainties, cf.reread = cf) ∧
        ((∀ cf ∈ r.summary.certainties, cf.IsShort) → r.reread = r) := by
  obtain ⟨htracks, rfl, -⟩ := Store.tracks_of_run_openAt hfile hopen
  obtain ⟨rfl, hpath, -⟩ := hrun.answers_eq htracks
  obtain ⟨longer, hread, hrecords⟩ := hrun.exists_read_of_ne htracks hne
  have hparse : (answers.filterMap fun r => (Record.parse r.line).toOption) =
      answers.map Record.reread := by
    rw [← List.filterMap_eq_map]
    apply List.filterMap_congr
    intro r hr
    exact (Record.parse_line (hvalid r hr)).trans (Record.reread?_eq (hfinite r hr))
  rw [hparse] at hrecords
  refine ⟨rfl, ?_, fun _ _ => ⟨Record.reread_eq_self_iff, Record.reread_of_isShort⟩⟩
  rw [← hrecords]
  exact Store.run_readAll_toUTF8 (hpath ▸ hread)

/-- Two reports, and a rule that adds little certainty for each of them. -/
def faintSelection : Selection Binary64 :=
  [⟨"G01", 0.2⟩, ⟨"G02", 1⟩]

def faintRules : List (Rule Binary64) :=
  [⟨"R1", "K01", none, [⟨"G01", 0.1, none⟩, ⟨"G02", 0.1, none⟩]⟩]

def faintStamp : Stamp :=
  ⟨⟨2, by decide⟩, ⟨0, 0⟩⟩

/-- The record of their evaluation, with the certainty `cf` for that of its result. -/
def faintRecord (cf : Binary64) : Record :=
  .ofStamp faintStamp ⟨2, 1, [⟨"G01", 0.2⟩, ⟨"G02", 1⟩], [⟨"K01", cf, 12, 1⟩]⟩

/-- The certainties of the first record are short. The text of the certainty that the second one
has from an evaluation is read as the number below it. -/
theorem readAll_of_added_unsteady :
    let short := Record.sample "G01" 0.25
    let found := faintRecord 0.11800000000000001
    FileTree.bytes? {} "log" = none ∧
      (Store.openAt "log" : StateM FileTree _).run {} = (.ok { path := "log" }, {}) ∧
      (∃ d, evaluate .strict faintSelection faintRules [⟨"K01", "Worn chain", "", ""⟩] = .ok d ∧
        found = .ofStamp faintStamp (.ofDiagnosis faintSelection d.results)) ∧
      (∀ r ∈ [short, found], r.IsValid) ∧ (∀ r ∈ [short, found], r.summary.IsFinite) ∧
      (∀ cf ∈ short.summary.certainties, cf.IsShort) ∧ short.reread = short ∧
      found.reread ≠ found ∧
      ∃ new, Recorded { path := "log" } {} [short, found] [short, found] ⟨"log", 2, false⟩ new ∧
        ((⟨"log", 2, false⟩ : Store).readAll : StateM FileTree _).run new =
          (.ok [short, faintRecord 0.118], new) := by
  intro short found
  have hfile : FileTree.bytes? {} "log" = none := rfl
  have hopen : (Store.openAt "log" : StateM FileTree _).run {} = (.ok { path := "log" }, {}) := rfl
  let damages : List Damage := [⟨"K01", "Worn chain", "", ""⟩]
  have hstart : refusal? .strict faintSelection faintRules = none := by decide +kernel
  have hjudged : ∀ rule ∈ faintRules, rule.judge .strict faintSelection damages =
      .ok (rule.verdict faintSelection damages) := by decide +kernel
  have hfound := evaluate_of_forall hstart hjudged
  have hrecord : found = .ofStamp faintStamp (.ofDiagnosis faintSelection
      (diagnosisOf .damageId faintSelection faintRules damages).results) := by
    rw [results_diagnosisOf, rank_of_pairwise (by decide +kernel)]
    decide +kernel
  have hvalid : ∀ r ∈ [short, found], r.IsValid := by
    have htime : Time.IsValid faintStamp.recordedAt := ⟨by decide, by decide, by decide⟩
    have hfoundValid : found.IsValid := by
      rw [hrecord]
      exact Record.isValid_ofDiagnosis htime hfound (by decide) (by decide)
    simp [short, Record.isValid_sample, hfoundValid]
  have hfinite : ∀ r ∈ [short, found], r.summary.IsFinite := by
    intro r hr
    have hcf : ∀ r ∈ [short, found], (∀ x ∈ r.summary.symptoms, x.cf.isFinite) ∧
        ∀ x ∈ r.summary.results, x.cf.isFinite := by
      decide +kernel
    exact ⟨(hcf r hr).1, (hcf r hr).2⟩
  have hrun : Recorded { path := "log" } {} [short, found] [short, found] ⟨"log", 2, false⟩ _ :=
    .cons rfl (.cons rfl (.nil _ _))
  obtain ⟨-, hread, hsame⟩ := readAll_of_added (.inr ⟨hfile, rfl⟩) hopen hrun
    (List.cons_ne_nil _ _) hvalid hfinite
  have hshort : ∀ cf ∈ short.summary.certainties, cf.IsShort := by decide +kernel
  have hother : found.reread ≠ found := by
    rw [Ne, (hsame found (by simp)).1]
    decide +kernel
  have hanswer : Contents.recordsOf "" ++ [short, found].map Record.reread =
      [short, faintRecord 0.118] := by
    decide +kernel
  rw [hanswer] at hread
  exact ⟨hfile, hopen, ⟨_, hfound, hrecord⟩, hvalid, hfinite, hshort,
    (hsame short List.mem_cons_self).2 hshort, hother, _, hrun, hread⟩

end CertaintyFactor.Session
