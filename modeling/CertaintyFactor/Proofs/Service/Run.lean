import CertaintyFactor.Disk.FileTree
import CertaintyFactor.Proofs.Catalog.Store
import CertaintyFactor.Proofs.Run
import CertaintyFactor.Service

/-!
# Runs of a service

A service over a catalog in memory, with a recorder in memory that goes down and up. Everything it
answers, and what its recorder holds, can be told from the history of what was asked and answered
before: the catalog is the one that the edits done so far lead to, and a diagnosis is the outcome on
a snapshot of it. What is asked of the recorder makes no difference to that.
-/

set_option autoImplicit false

namespace CertaintyFactor.Service

/-! ## Operations and answers -/

/-- What is asked of a service and its recorder. -/
inductive Operation where
  | edit (role : Role) (e : Edit Binary64)
  | diagnose (stamp : Session.Stamp) (selection : Selection Binary64)
  /-- Takes the recorder down. -/
  | down
  | up
  | clear
  | count
deriving DecidableEq

inductive Answer where
  | edited (result : Except Catalog.Error (Option (Record Binary64)))
  /-- The service has no catalog that can be edited. -/
  | fixed
  | diagnosed (result : Except Error (Outcome × Recording))
  | done
  | counted (result : Except Session.Error Nat)

/-- Whether an operation is on the recorder alone. -/
def Operation.isOnRecorder : Operation → Bool
  | edit .. => false
  | diagnose .. => false
  | _ => true

/-- An answer without what became of the record. -/
def Answer.unrecorded : Answer → Answer
  | diagnosed (.ok (o, _)) => diagnosed (.ok (o, .skipped))
  | answer => answer

/-- A service with its disk. -/
structure State where
  service : Service
  tree : FileTree

namespace State

def mapMemory (s : State) (f : Session.Memory → Session.Memory) : State :=
  { s with service := { s.service with recorder := s.service.recorder.mapMemory f } }

def step (s : State) : Operation → Answer × State
  | .edit role e =>
    match s.service.edit? role e with
    | some (result, service) => (.edited result, { s with service := service })
    | none => (.fixed, s)
  | .diagnose stamp selection =>
    let ((result, service), tree) :=
      (s.service.diagnose (m := StateM FileTree) stamp selection).run s.tree
    (.diagnosed result, ⟨service, tree⟩)
  | .down => (.done, s.mapMemory fun kept => { kept with isDown := true })
  | .up => (.done, s.mapMemory fun kept => { kept with isDown := false })
  | .clear => (.done, s.mapMemory (·.clear))
  | .count => (.counted s.service.recorder.count, s)

end State

/-! ## Histories -/

/-- What was asked and what was answered, in order. -/
abbrev History := List (Operation × Answer)

/-- The edit that was done, if one was. -/
def doneEdit? : Operation × Answer → Option (Role × Edit Binary64)
  | (.edit role e, .edited (.ok _)) => some (role, e)
  | _ => none

/-- Whether the recorder is put up or taken down, if either. -/
def Operation.turn? : Operation → Option Bool
  | down => some false
  | up => some true
  | _ => none

/-- The summary of an answered diagnosis with results. -/
def found? : Operation × Answer → Option (Summary Binary64)
  | (.diagnose _ selection, .diagnosed (.ok (o, _))) =>
    if o.results = [] then none else some (.ofDiagnosis selection o.results)
  | _ => none

namespace History

def doneEdits (past : History) : List (Role × Edit Binary64) :=
  past.filterMap doneEdit?

/-- Whether the recorder is up: it was not taken down, or put up again since. -/
def isUp (past : History) : Bool :=
  (past.filterMap (·.1.turn?)).getLast?.getD true

/-- What was found at one place, if the recorder was up and has not been cleared since. -/
def keptAt? (past : History) (place : Nat) : Option (Summary Binary64) :=
  if isUp (past.take place) ∧ ∀ later ∈ past.drop place, later.1 ≠ .clear then
    past[place]?.bind found?
  else none

/-- What has been recorded, in order. -/
def kept (past : History) : List (Summary Binary64) :=
  (List.range past.length).filterMap past.keptAt?

variable (past : History) (op : Operation) (answer : Answer)

theorem doneEdits_concat :
    doneEdits (past ++ [(op, answer)]) = doneEdits past ++ (doneEdit? (op, answer)).toList := by
  unfold doneEdits
  rw [List.filterMap_append, List.filterMap_cons]
  cases doneEdit? (op, answer) <;> rfl

theorem doneEdits_concat_of_eq_none {op : Operation} {answer : Answer}
    (h : doneEdit? (op, answer) = none) :
    doneEdits (past ++ [(op, answer)]) = doneEdits past := by
  rw [doneEdits_concat, h, Option.toList_none, List.append_nil]

theorem isUp_concat : isUp (past ++ [(op, answer)]) = op.turn?.getD (isUp past) := by
  unfold isUp
  rw [List.filterMap_append, List.filterMap_cons]
  cases op.turn? with
  | none => simp
  | some up => simp

theorem kept_concat_clear : kept (past ++ [(.clear, answer)]) = [] := by
  unfold kept
  rw [List.filterMap_eq_nil_iff]
  intro place hplace
  unfold keptAt?
  rw [if_neg]
  rintro ⟨-, hlater⟩
  have hlt : place ≤ past.length := by simpa [Nat.lt_succ_iff] using hplace
  rw [List.drop_append_of_le_length hlt] at hlater
  exact hlater (.clear, answer) (by simp) rfl

theorem kept_concat {op : Operation} (hop : op ≠ .clear) :
    kept (past ++ [(op, answer)]) =
      kept past ++ (if isUp past then found? (op, answer) else none).toList := by
  have hbefore : ∀ place ∈ List.range past.length,
      keptAt? (past ++ [(op, answer)]) place = keptAt? past place := by
    intro place hplace
    have hlt : place < past.length := List.mem_range.1 hplace
    have hle : place ≤ past.length := Nat.le_of_lt hlt
    have hlater : (∀ later ∈ past.drop place ++ [(op, answer)], later.1 ≠ .clear) ↔
        ∀ later ∈ past.drop place, later.1 ≠ .clear := by
      rw [List.forall_mem_append]
      simp [hop]
    unfold keptAt?
    rw [List.take_append_of_le_length hle, List.drop_append_of_le_length hle,
      List.getElem?_append_left hlt]
    simp only [hlater]
  have hlast : keptAt? (past ++ [(op, answer)]) past.length =
      if isUp past then found? (op, answer) else none := by
    simp [keptAt?, hop]
  unfold kept
  rw [List.length_append, List.length_singleton, List.range_succ, List.filterMap_append,
    List.filterMap_congr hbefore, List.filterMap_cons, hlast]
  cases (if isUp past then found? (op, answer) else none) <;> rfl

end History

/-! ## What is expected -/

/-- What becomes of the record of a diagnosis with the given results. -/
def recordingOf (isUp : Bool) (stamp : Session.Stamp) (selection : Selection Binary64)
    (results : List (Candidate Binary64)) : Recording :=
  if results = [] then .skipped
  else if isUp then .stored (.ofStamp stamp (.ofDiagnosis selection results))
  else .failed Session.Memory.refusal

/-- The answer to an operation on a catalog, after all that is past. -/
def Operation.expected (config : Config) (now : Catalog Binary64) (past : History) :
    Operation → Answer
  | edit role e => .edited ((now.edit role e).map (·.1))
  | diagnose stamp selection => .diagnosed <|
    match outcome config (now.snapshot past.doneEdits.length) selection with
    | .error e => .error (.evaluation e)
    | .ok o => .ok (o, recordingOf past.isUp stamp selection o.results)
  | count => .counted (if past.isUp then .ok past.kept.length else .error Session.Memory.refusal)
  | down => .done
  | up => .done
  | clear => .done

/-- An operation is answered, after all that is past, on the catalog that the edits lead to from the
one at the start. -/
def AnsweredAfter (config : Config) (c : Catalog Binary64) (past : History) (op : Operation)
    (answer : Answer) : Prop :=
  ∃ now, c.replay past.doneEdits = .ok now ∧ answer = op.expected config now past

/-! ## One step -/

theorem summary?_eq (selection : Selection Binary64) (o : Outcome) :
    summary? selection o =
      if o.results = [] then none else some (.ofDiagnosis selection o.results) := by
  simp [summary?]

/-- The recorder after a summary, if there is one, was to be recorded. -/
def keep (kept : Session.Memory) (stamp : Session.Stamp) :
    Option (Summary Binary64) → Session.Memory
  | none => kept
  | some summary => (kept.add (.ofStamp stamp summary)).2

theorem isDown_keep (kept : Session.Memory) (stamp : Session.Stamp)
    (summary : Option (Summary Binary64)) : (keep kept stamp summary).isDown = kept.isDown := by
  cases summary with
  | none => rfl
  | some summary =>
    unfold keep Session.Memory.add
    by_cases hdown : kept.isDown
    · simp [hdown]
    · simp [hdown]

theorem records_keep (kept : Session.Memory) (stamp : Session.Stamp)
    (summary : Option (Summary Binary64)) : (keep kept stamp summary).records.map (·.summary) =
      kept.records.map (·.summary) ++ (if kept.isDown then none else summary).toList := by
  cases summary with
  | none => simp [keep]
  | some summary =>
    unfold keep Session.Memory.add
    by_cases hdown : kept.isDown
    · simp [hdown]
    · simp [hdown, Session.Record.ofStamp]

section

variable {m : Type → Type} [Monad m] [LawfulMonad m] [Disk m]

/-- Recording in memory is no matter of the disk. -/
theorem record_inMemory (config : Config) (source : Source) (kept : Session.Memory)
    (stamp : Session.Stamp) (selection : Selection Binary64) (o : Outcome) :
    (record ⟨config, source, .memory kept⟩ stamp (summary? selection o) : m _) =
      pure (recordingOf (!kept.isDown) stamp selection o.results,
        ⟨config, source, .memory (keep kept stamp (summary? selection o))⟩) := by
  rw [summary?_eq]
  unfold record recordingOf
  by_cases hresults : o.results = []
  · simp [hresults, keep]
  · unfold Session.Recorder.record keep Session.Memory.add
    by_cases hdown : kept.isDown
    · simp [hresults, hdown]
    · simp [hresults, hdown]

/-- A diagnosis on a store and in memory is that on the snapshot of the store. -/
theorem diagnose_inMemory (config : Config) (store : CatalogStore Binary64) (kept : Session.Memory)
    (stamp : Session.Stamp) (selection : Selection Binary64) :
    (diagnose ⟨config, .store store, .memory kept⟩ stamp selection : m _) =
      pure (match outcome config store.snapshot.1.snapshot selection with
        | .error e => (.error (.evaluation e), ⟨config, .store store.snapshot.2, .memory kept⟩)
        | .ok o => (.ok (o, recordingOf (!kept.isDown) stamp selection o.results),
            ⟨config, .store store.snapshot.2,
              .memory (keep kept stamp (summary? selection o))⟩)) := by
  unfold diagnose Source.snapshot
  rw [pure_bind]
  dsimp only
  cases outcome config store.snapshot.1.snapshot selection with
  | error e => rfl
  | ok o =>
    dsimp only
    rw [record_inMemory, pure_bind]

end

namespace State

variable {config : Config} {store : CatalogStore Binary64} {selection : Selection Binary64}

theorem step_diagnose_error (kept : Session.Memory) (tree : FileTree) (stamp : Session.Stamp)
    {e : EvaluationError Binary64}
    (h : outcome config store.snapshot.1.snapshot selection = .error e) :
    step ⟨⟨config, .store store, .memory kept⟩, tree⟩ (.diagnose stamp selection) =
      (.diagnosed (.error (.evaluation e)),
        ⟨⟨config, .store store.snapshot.2, .memory kept⟩, tree⟩) := by
  unfold step
  dsimp only
  rw [diagnose_inMemory, h]
  rfl

theorem step_diagnose_ok (kept : Session.Memory) (tree : FileTree) (stamp : Session.Stamp)
    {o : Outcome} (h : outcome config store.snapshot.1.snapshot selection = .ok o) :
    step ⟨⟨config, .store store, .memory kept⟩, tree⟩ (.diagnose stamp selection) =
      (.diagnosed (.ok (o, recordingOf (!kept.isDown) stamp selection o.results)),
        ⟨⟨config, .store store.snapshot.2, .memory (keep kept stamp (summary? selection o))⟩,
          tree⟩) := by
  unfold step
  dsimp only
  rw [diagnose_inMemory, h]
  rfl

end State

/-! ## The recorder and its history -/

/-- A recorder in memory is as the history says: up or down, and with what was recorded. -/
structure Recalls (past : History) (kept : Session.Memory) : Prop where
  isDown : kept.isDown = !past.isUp
  records : kept.records.map (·.summary) = past.kept

theorem recalls_start : Recalls [] {} :=
  ⟨rfl, rfl⟩

namespace Recalls

variable {past : History} {kept : Session.Memory}

/-- The recorder after an operation that neither turns it nor clears it, if it has what was
found. -/
theorem concat (h : Recalls past kept) {op : Operation} {answer : Answer}
    (hturn : op.turn? = none) (hclear : op ≠ .clear) {next : Session.Memory}
    (hdown : next.isDown = kept.isDown)
    (hrecords : next.records.map (·.summary) = kept.records.map (·.summary) ++
      (if past.isUp then found? (op, answer) else none).toList) :
    Recalls (past ++ [(op, answer)]) next := by
  constructor
  · rw [History.isUp_concat, hturn, hdown]
    exact h.isDown
  · rw [History.kept_concat past answer hclear, hrecords, h.records]

/-- What finds nothing leaves the recorder as it is. -/
theorem concat_of_found?_eq_none (h : Recalls past kept) {op : Operation} {answer : Answer}
    (hturn : op.turn? = none) (hclear : op ≠ .clear) (hfound : found? (op, answer) = none) :
    Recalls (past ++ [(op, answer)]) kept := by
  apply h.concat hturn hclear rfl
  rw [hfound, ite_self, Option.toList_none, List.append_nil]

theorem concat_diagnose (h : Recalls past kept) (stamp : Session.Stamp)
    (selection : Selection Binary64) (o : Outcome) (recording : Recording) :
    Recalls (past ++ [(.diagnose stamp selection, .diagnosed (.ok (o, recording)))])
      (keep kept stamp (summary? selection o)) := by
  have hclear : Operation.diagnose stamp selection ≠ .clear := nofun
  apply h.concat rfl hclear (isDown_keep kept stamp _)
  rw [records_keep, h.isDown, found?, ← summary?_eq]
  cases past.isUp <;> rfl

theorem concat_turn (h : Recalls past kept) {op : Operation} {up : Bool} (hop : op.turn? = some up)
    (answer : Answer) {next : Session.Memory} (hdown : next.isDown = !up)
    (hrecords : next.records = kept.records) : Recalls (past ++ [(op, answer)]) next := by
  have hclear : op ≠ .clear := by
    rintro rfl
    cases hop
  have hfound : found? (op, answer) = none := by
    cases op <;> first | rfl | cases hop
  constructor
  · rw [History.isUp_concat, hop, hdown, Option.getD_some]
  · rw [History.kept_concat past answer hclear, hfound, ite_self, Option.toList_none,
      List.append_nil, hrecords]
    exact h.records

theorem concat_clear (h : Recalls past kept) (answer : Answer) :
    Recalls (past ++ [(.clear, answer)]) kept.clear := by
  constructor
  · rw [History.isUp_concat]
    exact h.isDown
  · rw [History.kept_concat_clear]
    rfl

theorem count (h : Recalls past kept) :
    kept.count = if past.isUp then .ok past.kept.length else .error Session.Memory.refusal := by
  rw [← h.records, List.length_map, Session.Memory.count, h.isDown]
  cases past.isUp <;> rfl

end Recalls

/-! ## The service and its history -/

section

variable {config : Config} {c : Catalog Binary64} {tree : FileTree} {past : History} {s : State}

/-- A state with a store and a recorder in memory that are as the history says. -/
def StandsAt (config : Config) (c : Catalog Binary64) (tree : FileTree) (past : History)
    (s : State) : Prop :=
  ∃ store kept, s = ⟨⟨config, .store store, .memory kept⟩, tree⟩ ∧
    store.IsAfter c past.doneEdits ∧ Recalls past kept

/-- Each operation is answered as expected after the history, and joins it. -/
theorem StandsAt.step (h : StandsAt config c tree past s) (op : Operation) :
    AnsweredAfter config c past op (s.step op).1 ∧
      StandsAt config c tree (past ++ [(op, (s.step op).1)]) (s.step op).2 := by
  obtain ⟨store, kept, rfl, hstore, hkept⟩ := h
  -- Only edits that are done change what the store comes to.
  have hstays : ∀ {op : Operation} {answer : Answer}, doneEdit? (op, answer) = none →
      store.IsAfter c (past ++ [(op, answer)] : History).doneEdits := by
    intro op answer hop
    rw [History.doneEdits_concat_of_eq_none past hop]
    exact hstore
  cases op with
  | edit role e =>
    have hanswer : (State.step ⟨⟨config, .store store, .memory kept⟩, tree⟩ (.edit role e)).1 =
        .edited (store.edit role e).1 := rfl
    refine ⟨⟨_, hstore.catalog, ?_⟩, (store.edit role e).2, kept, rfl, ?_, ?_⟩
    · rw [hanswer, CatalogStore.edit_fst]
      rfl
    · rw [hanswer]
      rcases hstore.edit role e with ⟨removed, hedit, hafter⟩ | ⟨error, hedit, hafter⟩
      · rw [hedit, History.doneEdits_concat]
        exact hafter
      · rw [hedit, History.doneEdits_concat_of_eq_none past rfl]
        exact hafter
    · exact hkept.concat_of_found?_eq_none rfl (by nofun) rfl
  | diagnose stamp selection =>
    obtain ⟨hshared, hsnapshot⟩ := hstore.snapshot
    cases houtcome : outcome config store.snapshot.1.snapshot selection with
    | error e =>
      rw [State.step_diagnose_error kept tree stamp houtcome]
      refine ⟨⟨_, hstore.catalog, ?_⟩, store.snapshot.2, kept, rfl, ?_, ?_⟩
      · rw [Operation.expected, ← hshared, houtcome]
      · rw [History.doneEdits_concat_of_eq_none past rfl]
        exact hsnapshot
      · exact hkept.concat_of_found?_eq_none rfl (by nofun) rfl
    | ok o =>
      rw [State.step_diagnose_ok kept tree stamp houtcome]
      refine ⟨⟨_, hstore.catalog, ?_⟩, store.snapshot.2, _, rfl, ?_, ?_⟩
      · rw [Operation.expected, ← hshared, houtcome, hkept.isDown, Bool.not_not]
      · rw [History.doneEdits_concat_of_eq_none past rfl]
        exact hsnapshot
      · exact hkept.concat_diagnose stamp selection o _
  | down =>
    refine ⟨⟨_, hstore.catalog, rfl⟩, store, _, rfl, hstays rfl, ?_⟩
    exact hkept.concat_turn rfl _ rfl rfl
  | up =>
    refine ⟨⟨_, hstore.catalog, rfl⟩, store, _, rfl, hstays rfl, ?_⟩
    exact hkept.concat_turn rfl _ rfl rfl
  | clear => exact ⟨⟨_, hstore.catalog, rfl⟩, store, _, rfl, hstays rfl, hkept.concat_clear _⟩
  | count =>
    refine ⟨⟨_, hstore.catalog, ?_⟩, store, kept, rfl, hstays rfl, ?_⟩
    · exact congrArg Answer.counted hkept.count
    · exact hkept.concat_of_found?_eq_none rfl (by nofun) rfl

end

/-! ## Services that differ in their recorders -/

/-- The services have the same settings and the same store. -/
def Alike (s t : State) : Prop :=
  ∃ config store kept kept' tree tree', s = ⟨⟨config, .store store, .memory kept⟩, tree⟩ ∧
    t = ⟨⟨config, .store store, .memory kept'⟩, tree'⟩

namespace Alike

variable {s t : State} {op : Operation}

/-- What is asked of the service itself is answered alike. -/
theorem step (h : Alike s t) (hop : op.isOnRecorder = false) :
    (s.step op).1.unrecorded = (t.step op).1.unrecorded ∧ Alike (s.step op).2 (t.step op).2 := by
  obtain ⟨config, store, kept, kept', tree, tree', rfl, rfl⟩ := h
  cases op with
  | edit role e => exact ⟨rfl, config, (store.edit role e).2, kept, kept', tree, tree', rfl, rfl⟩
  | diagnose stamp selection =>
    cases houtcome : outcome config store.snapshot.1.snapshot selection with
    | error e =>
      rw [State.step_diagnose_error kept tree stamp houtcome,
        State.step_diagnose_error kept' tree' stamp houtcome]
      exact ⟨rfl, config, store.snapshot.2, kept, kept', tree, tree', rfl, rfl⟩
    | ok o =>
      rw [State.step_diagnose_ok kept tree stamp houtcome,
        State.step_diagnose_ok kept' tree' stamp houtcome]
      exact ⟨rfl, config, store.snapshot.2, _, _, tree, tree', rfl, rfl⟩
  | down => cases hop
  | up => cases hop
  | clear => cases hop
  | count => cases hop

/-- What is asked of one recorder makes no other difference. -/
theorem step_left (h : Alike s t) (hop : op.isOnRecorder = true) : Alike (s.step op).2 t := by
  obtain ⟨config, store, kept, kept', tree, tree', rfl, rfl⟩ := h
  cases op with
  | edit role e => cases hop
  | diagnose stamp selection => cases hop
  | down => exact ⟨config, store, _, kept', tree, tree', rfl, rfl⟩
  | up => exact ⟨config, store, _, kept', tree, tree', rfl, rfl⟩
  | clear => exact ⟨config, store, _, kept', tree, tree', rfl, rfl⟩
  | count => exact ⟨config, store, kept, kept', tree, tree', rfl, rfl⟩

end Alike

/-! ## The service in use -/

/-- A service started from any catalog, with an empty recorder, answers everything as expected after
what was asked and answered before. In the end its recorder has what the diagnoses found while it
was up, since it was last cleared. Without the operations on the recorder, all else is answered the
same. -/
theorem run_told_by_history (config : Config) (c : Catalog Binary64) (tree : FileTree)
    (ops : List Operation) :
    let start : State := ⟨{ config := config, source := .store (.ofCatalog c) }, tree⟩
    let answers := (runSteps State.step start ops).1
    let last := (runSteps State.step start ops).2
    let past : History := ops.zip answers
    last.service.recorder.inMemory.map (·.summary) = past.kept ∧ last.tree = tree ∧
      (∀ before op answer after, past = before ++ (op, answer) :: after →
        AnsweredAfter config c before op answer) ∧
      (runSteps State.step start (ops.filter fun op => !op.isOnRecorder)).1.map Answer.unrecorded =
        (past.filter fun asked => !asked.1.isOnRecorder).map fun asked => asked.2.unrecorded := by
  intro start answers last past
  have hstart : StandsAt config c tree [] start :=
    ⟨.ofCatalog c, {}, rfl, CatalogStore.isAfter_ofCatalog c, recalls_start⟩
  have hstep : ∀ past s op, StandsAt config c tree past s →
      AnsweredAfter config c past op (State.step s op).1 ∧
        StandsAt config c tree (past ++ [(op, (State.step s op).1)]) (State.step s op).2 :=
    fun _ _ op h => h.step op
  obtain ⟨⟨store, kept, hlast, -, hkept⟩, hanswered⟩ := runSteps_explained hstep hstart ops
  have hlast' : last = ⟨⟨config, .store store, .memory kept⟩, tree⟩ := hlast
  refine ⟨?_, ?_, hanswered, ?_⟩
  · rw [hlast']
    exact hkept.records
  · rw [hlast']
  · have halike : Alike start start :=
      ⟨config, .ofCatalog c, {}, {}, tree, tree, rfl, rfl⟩
    apply runSteps_unaffected (fun op => !op.isOnRecorder) Answer.unrecorded ?_ ?_ halike ops
    · intro s t op h hop
      exact h.step (by simpa using hop)
    · intro s t op h hop
      exact h.step_left (by simpa using hop)

end CertaintyFactor.Service
