import CertaintyFactor.Proofs.Evaluation.Dangling
import CertaintyFactor.Proofs.Service.Echo

/-!
# The warnings of a diagnosis

A diagnosis passes on the warnings of the snapshot it was made on and adds those of the evaluation
that are not among them. All of these are (`warnings_of_evaluate_snapshot`), so nothing is added.
-/

set_option autoImplicit false

namespace CertaintyFactor

namespace Service

/-- Warnings that are all among others already leave those as they are. -/
theorem mergeWarnings_of_subset {warnings others : List (Warning Binary64)}
    (h : ∀ w ∈ others, w ∈ warnings) : mergeWarnings warnings others = warnings := by
  induction others with
  | nil => rfl
  | cons w others ih =>
    obtain ⟨hw, hothers⟩ := List.forall_mem_cons.1 h
    have hcontains : warnings.contains w = true := List.contains_iff_mem.2 hw
    have hrest := ih hothers
    unfold mergeWarnings at hrest ⊢
    rw [List.foldl_cons, if_pos hcontains]
    exact hrest

/-- An outcome has the warnings and the counters of the evaluation it was made from. -/
theorem exists_evaluate_of_outcome {config : Config} {snapshot : Snapshot Binary64}
    {selection : Selection Binary64} {o : Outcome}
    (h : outcome config snapshot selection = .ok o) :
    ∃ d, evaluate config selection snapshot.rules snapshot.damages = .ok d ∧
      o.results = d.results ∧ o.stats = d.stats ∧
      o.warnings = mergeWarnings snapshot.warnings d.warnings := by
  obtain ⟨d, hd, rfl⟩ := outcome_eq_ok_iff.1 h
  exact ⟨d, hd, rfl, rfl, rfl⟩

section

variable {σ : Type} {disk disk' : σ} [Disk (StateM σ)] {selection : Selection Binary64}

/-- The warnings of a diagnosis are those of the snapshot it was made on, in the same order and as
often: all that the evaluation warns of is among them, which is as much as it dropped rules. -/
theorem diagnose_warnings {s s' : Service} (hsource : s.source.IsAssembled)
    {stamp : Session.Stamp} {o : Outcome} {recording : Recording}
    (h : (s.diagnose stamp selection : StateM σ _).run disk =
      ((.ok (o, recording), s'), disk')) :
    ∃ snapshot source between d,
      (s.source.snapshot : StateM σ _).run disk = ((.ok snapshot, source), between) ∧
        evaluate s.config selection snapshot.rules snapshot.damages = .ok d ∧
        o.results = d.results ∧ o.stats = d.stats ∧
        (∀ w ∈ d.warnings, w ∈ snapshot.warnings) ∧ o.warnings = snapshot.warnings ∧
        d.warnings.length = o.stats.dropped := by
  obtain ⟨snapshot, source, between, hsnapshot, houtcome⟩ := exists_snapshot_of_diagnose h
  obtain ⟨d, hd, hresults, hstats, hwarnings⟩ := exists_evaluate_of_outcome houtcome
  obtain ⟨c, revision, rfl⟩ := exists_snapshot_of_isAssembled hsource hsnapshot
  obtain ⟨hsubset, hdropped⟩ := warnings_of_evaluate_snapshot hd
  refine ⟨_, source, between, d, hsnapshot, hd, hresults, hstats, hsubset, ?_, ?_⟩
  · rw [hwarnings, mergeWarnings_of_subset hsubset]
  · rw [hstats]
    exact hdropped

end

/-- A catalog with two rules of one code that lead to a damage that is not listed, and a third rule
that leads to one that is. -/
def danglingCatalog : Catalog Binary64 where
  symptoms := [⟨"G01", "Engine hard to start", ""⟩]
  damages := [⟨"K01", "Fouled spark plug", "", "Replace the plug"⟩]
  rules := [⟨"R1", "K09", [⟨"G01", 0.5⟩]⟩, ⟨"R1", "K09", [⟨"G01", 0.8⟩]⟩,
    ⟨"R2", "K01", [⟨"G01", 0.4⟩]⟩]

theorem diagnose_warnings_dangling :
    let s : Service := { source := .store (.ofCatalog danglingCatalog) }
    let stamp : Session.Stamp := ⟨⟨0, by decide⟩, ⟨0, 0⟩⟩
    let snapshot := danglingCatalog.snapshot 0
    s.source.IsAssembled ∧ ∃ o recording s' tree d,
      (s.diagnose stamp [⟨"G01", 0.6⟩] : StateM FileTree _).run {} =
        ((.ok (o, recording), s'), tree) ∧
      evaluate s.config [⟨"G01", 0.6⟩] snapshot.rules snapshot.damages = .ok d ∧
      (∀ w ∈ d.warnings, w ∈ snapshot.warnings) ∧ o.warnings = snapshot.warnings ∧
      d.warnings.length = o.stats.dropped ∧ o.stats.dropped = 2 ∧
      o.warnings = [.unknownDamage "R1" "K09", .duplicateCode "rule" "R1",
        .unknownDamage "R1" "K09"] := by
  intro s stamp snapshot
  have hsource : s.source.IsAssembled := CatalogStore.isCurrent_ofCatalog danglingCatalog
  have hanswer : ((s.diagnose stamp [⟨"G01", 0.6⟩] : StateM FileTree _).run {}).1.1.toOption.map
      (fun found => found.1.stats.dropped) = some 2 := by
    decide +kernel
  cases hrun : (s.diagnose stamp [⟨"G01", 0.6⟩] : StateM FileTree _).run {} with
  | mk answer tree =>
    obtain ⟨_ | ⟨o, recording⟩, s'⟩ := answer
    · rw [hrun] at hanswer
      cases hanswer
    · rw [hrun] at hanswer
      obtain ⟨taken, source, between, d, htaken, hd, -, -, hsubset, hwarnings, hdropped⟩ :=
        diagnose_warnings hsource hrun
      obtain rfl : snapshot = taken := by
        cases htaken
        rfl
      exact ⟨hsource, o, recording, s', tree, d, rfl, hd, hsubset, hwarnings, hdropped,
        Option.some.inj hanswer, hwarnings.trans (by decide +kernel)⟩

end Service

end CertaintyFactor
