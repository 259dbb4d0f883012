import CertaintyFactor.Proofs.Catalog.Store
import CertaintyFactor.Proofs.Run

/-!
# Runs of a catalog store

A store in use: edits by any role, snapshots taken and looked at again, and plain reads. `Ledger`
answers the same without a cache. It keeps the records, and those of each moment at which a snapshot
was taken, and joins them whenever it is asked. `run_refines` says that the store cannot be told
from it but by which snapshots are shared, and says when they are.
-/

set_option autoImplicit false

namespace CertaintyFactor.CatalogStore

/-! ## Operations and answers -/

/-- What is asked of a store. -/
inductive Operation (K : Type) where
  | edit (role : Role) (e : Edit K)
  | snapshot
  /-- Looks at a snapshot taken before, by its place among those. -/
  | view (place : Nat)
  | joinedRules
  | document
  | list (collection : Collection)
  | revision
deriving DecidableEq, Repr

/-- What is answered. A snapshot is handed out as an `S`. -/
inductive Answer (K S : Type) where
  | edited (result : Except Catalog.Error (Option (Record K)))
  | taken (snapshot : S)
  | viewed (snapshot : Option (Snapshot K))
  | joinedRules (rules : List (Rule K))
  | document (catalog : Catalog K)
  | listed (records : List (Record K))
  | revision (count : Nat)

namespace Answer

variable {K S T : Type}

def map (f : S → T) : Answer K S → Answer K T
  | edited result => edited result
  | taken snapshot => taken (f snapshot)
  | viewed snapshot => viewed snapshot
  | joinedRules rules => joinedRules rules
  | document catalog => document catalog
  | listed records => listed records
  | revision count => revision count

/-- Whether an edit was done. -/
def isEdit : Answer K S → Bool
  | edited (.ok _) => true
  | _ => false

/-- Whether an edit was refused. -/
def isRefusal : Answer K S → Bool
  | edited (.error _) => true
  | _ => false

end Answer

variable {K : Type} [Confidence K]

/-- A store with the snapshots that were taken of it, in order. -/
structure State (K : Type) where
  store : CatalogStore K
  taken : List (SharedSnapshot K) := []

namespace State

def step (s : State K) : Operation K → Answer K (SharedSnapshot K) × State K
  | .edit role e =>
    let (result, store) := s.store.edit role e
    (.edited result, { s with store := store })
  | .snapshot =>
    let (shared, store) := s.store.snapshot
    (.taken shared, ⟨store, s.taken ++ [shared]⟩)
  | .view place => (.viewed (s.taken[place]?.map (·.snapshot)), s)
  | .joinedRules =>
    let (shared, store) := s.store.snapshot
    (.joinedRules shared.snapshot.rules, { s with store := store })
  | .document => (.document s.store.catalog, s)
  | .list collection => (.listed (s.store.catalog.records collection), s)
  | .revision => (.revision s.store.revision, s)

end State

/-- The records of a catalog, the number of edits, and both as they were whenever a snapshot was
taken. -/
structure Ledger (K : Type) where
  catalog : Catalog K
  revision : Nat := 0
  taken : List (Catalog K × Nat) := []

namespace Ledger

def step (l : Ledger K) : Operation K → Answer K (Snapshot K) × Ledger K
  | .edit role e =>
    match l.catalog.edit role e with
    | .ok (removed, c) =>
      (.edited (.ok removed), { l with catalog := c, revision := l.revision + 1 })
    | .error error => (.edited (.error error), l)
  | .snapshot =>
    (.taken (l.catalog.snapshot l.revision),
      { l with taken := l.taken ++ [(l.catalog, l.revision)] })
  | .view place => (.viewed (l.taken[place]?.map fun (c, revision) => c.snapshot revision), l)
  | .joinedRules => (.joinedRules (l.catalog.snapshot l.revision).rules, l)
  | .document => (.document l.catalog, l)
  | .list collection => (.listed (l.catalog.records collection), l)
  | .revision => (.revision l.revision, l)

end Ledger

/-! ## The store and the ledger -/

/-- The ledger has the records of the store, and can make its snapshots from what it kept. -/
structure Represents (s : State K) (l : Ledger K) : Prop where
  catalog : s.store.catalog = l.catalog
  revision : s.store.revision = l.revision
  isCurrent : s.store.IsCurrent
  taken : s.taken.map (·.snapshot) = l.taken.map fun (c, revision) => c.snapshot revision

namespace Represents

variable {s : State K} {l : Ledger K}

theorem snapshot_eq (h : Represents s l) :
    s.store.snapshot.1.snapshot = l.catalog.snapshot l.revision := by
  rw [h.isCurrent.snapshot.1, h.catalog, h.revision]

theorem step (h : Represents s l) (op : Operation K) :
    (s.step op).1.map (·.snapshot) = (l.step op).1 ∧ Represents (s.step op).2 (l.step op).2 := by
  obtain ⟨-, hcatalog, hrevision, hcurrent⟩ := h.isCurrent.snapshot
  cases op with
  | edit role e =>
    have hkeeps := h.isCurrent.edit role e
    simp only [State.step, Ledger.step, ← h.catalog]
    rcases s.store.edit_cases role e with ⟨removed, c, hc, hedit⟩ | ⟨error, hc, hedit⟩
    · rw [hedit] at hkeeps
      rw [hedit, hc]
      refine ⟨rfl, rfl, ?_, hkeeps, h.taken⟩
      exact congrArg (· + 1) h.revision
    · rw [hedit, hc]
      exact ⟨rfl, h⟩
  | snapshot =>
    refine ⟨congrArg Answer.taken h.snapshot_eq, hcatalog.trans h.catalog,
      hrevision.trans h.revision, hcurrent, ?_⟩
    show (s.taken ++ [s.store.snapshot.1]).map _ = (l.taken ++ [(l.catalog, l.revision)]).map _
    rw [List.map_append, List.map_append, h.taken, List.map_singleton, List.map_singleton,
      h.snapshot_eq]
  | view place =>
    refine ⟨?_, h⟩
    show Answer.viewed _ = Answer.viewed _
    rw [← List.getElem?_map, ← List.getElem?_map, h.taken]
  | joinedRules =>
    exact ⟨congrArg (fun shown : Snapshot K => Answer.joinedRules shown.rules) h.snapshot_eq,
      hcatalog.trans h.catalog, hrevision.trans h.revision, hcurrent, h.taken⟩
  | document => exact ⟨congrArg Answer.document h.catalog, h⟩
  | list collection =>
    exact ⟨congrArg (fun c : Catalog K => Answer.listed (c.records collection)) h.catalog, h⟩
  | revision => exact ⟨congrArg Answer.revision h.revision, h⟩

end Represents

/-! ## Edits along a run -/

namespace State

/-- A step edits the store, takes a snapshot of it, or leaves it alone. -/
theorem step_cases (s : State K) (op : Operation K) :
    (∃ role e, (s.step op).1 = .edited (s.store.edit role e).1 ∧
      (s.step op).2 = { s with store := (s.store.edit role e).2 }) ∨
    (s.step op).1.isEdit = false ∧ (s.step op).1.isRefusal = false ∧
      ((s.step op).2.store = s.store.snapshot.2 ∨ (s.step op).2.store = s.store) := by
  cases op with
  | edit role e => exact .inl ⟨role, e, rfl, rfl⟩
  | snapshot => exact .inr ⟨rfl, rfl, .inl rfl⟩
  | joinedRules => exact .inr ⟨rfl, rfl, .inl rfl⟩
  | view place => exact .inr ⟨rfl, rfl, .inr rfl⟩
  | document => exact .inr ⟨rfl, rfl, .inr rfl⟩
  | list collection => exact .inr ⟨rfl, rfl, .inr rfl⟩
  | revision => exact .inr ⟨rfl, rfl, .inr rfl⟩

/-- A refused edit leaves everything as it was. -/
theorem step_of_isRefusal {s : State K} {op : Operation K} (h : (s.step op).1.isRefusal) :
    (s.step op).2 = s := by
  rcases s.step_cases op with ⟨role, e, hanswer, hstate⟩ | ⟨-, hrefusal, -⟩
  · rw [hanswer] at h
    cases hedit : (s.store.edit role e).1 with
    | ok removed =>
      rw [hedit] at h
      cases h
    | error error => rw [hstate, edit_of_error hedit]
  · rw [hrefusal] at h
    cases h

/-- Edits that are done are counted, and nothing else is. -/
theorem revision_step (s : State K) (op : Operation K) :
    (s.step op).2.store.revision = s.store.revision + if (s.step op).1.isEdit then 1 else 0 := by
  rcases s.step_cases op with ⟨role, e, hanswer, hstate⟩ | ⟨hedit, -, hstore | hstore⟩
  · rw [hanswer, hstate]
    rcases s.store.edit_cases role e with ⟨_, _, -, hedit⟩ | ⟨_, -, hedit⟩
    · rw [hedit]
      rfl
    · rw [hedit]
      rfl
  · rw [hedit, hstore]
    rcases s.store.snapshot_cases with ⟨_, -, hsnapshot⟩ | ⟨-, hsnapshot⟩ <;> rw [hsnapshot] <;> rfl
  · rw [hedit, hstore]
    rfl

theorem revision_run (s : State K) (ops : List (Operation K)) :
    (runSteps step s ops).2.store.revision =
      s.store.revision + (runSteps step s ops).1.countP (·.isEdit) := by
  induction ops generalizing s with
  | nil => rfl
  | cons op ops ih =>
    simp only [runSteps]
    rw [ih, revision_step, List.countP_cons, Nat.add_assoc, Nat.add_comm (List.countP _ _)]

end State

/-! ## Shared snapshots -/

namespace State

variable {s : State K} {op : Operation K}

theorem isNumbered_step (h : s.store.IsNumbered) (op : Operation K) :
    (s.step op).2.store.IsNumbered := by
  rcases s.step_cases op with ⟨role, e, -, hstate⟩ | ⟨-, -, hstore | hstore⟩
  · rw [hstate]
    exact h.edit role e
  · rw [hstore]
    exact h.snapshot
  · rw [hstore]
    exact h

theorem buildsFrom_step {n : Nat} (h : s.store.BuildsFrom n) (op : Operation K) :
    (s.step op).2.store.BuildsFrom n := by
  rcases s.step_cases op with ⟨role, e, -, hstate⟩ | ⟨-, -, hstore | hstore⟩
  · rw [hstate]
    exact h.edit role e
  · rw [hstore]
    exact h.snapshot.2
  · rw [hstore]
    exact h

/-- After an edit, no snapshot built before is handed out again. -/
theorem buildsFrom_of_isEdit (h : (s.step op).1.isEdit) :
    (s.step op).2.store.BuildsFrom s.store.builds := by
  rcases s.step_cases op with ⟨role, e, hanswer, hstate⟩ | ⟨hedit, -, -⟩
  · rw [hanswer] at h
    rcases s.store.edit_cases role e with ⟨_, _, -, hedit⟩ | ⟨_, -, hedit⟩
    · rw [hstate, hedit]
      exact ⟨Nat.le_refl _, nofun⟩
    · rw [hedit] at h
      cases h
  · rw [hedit] at h
    cases h

/-- Without an edit, the cached snapshot stays. -/
theorem cached_of_not_isEdit {a : SharedSnapshot K} (ha : s.store.cached = some a)
    (h : (s.step op).1.isEdit = false) : (s.step op).2.store.cached = some a := by
  rcases s.step_cases op with ⟨role, e, hanswer, hstate⟩ | ⟨-, -, hstore | hstore⟩
  · rw [hanswer] at h
    rcases s.store.edit_cases role e with ⟨_, _, -, hedit⟩ | ⟨_, -, hedit⟩
    · rw [hedit] at h
      cases h
    · rw [hstate, hedit]
      exact ha
  · rw [hstore]
    rcases s.store.snapshot_cases with ⟨_, -, hsnapshot⟩ | ⟨hnone, -⟩
    · rw [hsnapshot]
      exact ha
    · rw [hnone] at ha
      cases ha
  · rw [hstore]
    exact ha

/-- A snapshot that is handed out is the store's current one. -/
theorem of_step_taken {a : SharedSnapshot K} (h : (s.step op).1 = .taken a) :
    a = s.store.snapshot.1 ∧ (s.step op).2.store = s.store.snapshot.2 := by
  cases op with
  | snapshot =>
    obtain rfl := Answer.taken.inj h
    exact ⟨rfl, rfl⟩
  | edit role e => cases h
  | view place => cases h
  | joinedRules => cases h
  | document => cases h
  | list collection => cases h
  | revision => cases h

variable {ops : List (Operation K)} {a b : SharedSnapshot K}

theorem le_build_of_taken {n j : Nat} (h : s.store.BuildsFrom n)
    (hb : (runSteps step s ops).1[j]? = some (.taken b)) : n ≤ b.build := by
  induction ops generalizing s j with
  | nil => cases hb
  | cons op ops ih =>
    cases j with
    | zero =>
      obtain ⟨rfl, -⟩ := of_step_taken (Option.some.inj hb)
      exact h.snapshot.1
    | succ j => exact ih (buildsFrom_step h op) hb

/-- A snapshot taken later is the cached one if nothing was edited before, else a newer one. -/
theorem taken_of_cached {j : Nat} (hnumbered : s.store.IsNumbered) (ha : s.store.cached = some a)
    (hb : (runSteps step s ops).1[j]? = some (.taken b)) :
    (a = b ∧ ∀ answer ∈ (runSteps step s ops).1.take j, answer.isEdit = false) ∨
    a.build < b.build ∧ ∃ answer ∈ (runSteps step s ops).1.take j, answer.isEdit := by
  induction ops generalizing s j with
  | nil => cases hb
  | cons op ops ih =>
    cases j with
    | zero =>
      obtain ⟨rfl, -⟩ := of_step_taken (Option.some.inj hb)
      have hsame : a = s.store.snapshot.1 := by
        rcases s.store.snapshot_cases with ⟨shared, hcached, hsnapshot⟩ | ⟨hnone, -⟩
        · rw [hsnapshot]
          exact Option.some.inj (ha.symm.trans hcached)
        · cases ha.symm.trans hnone
      exact .inl ⟨hsame, nofun⟩
    | succ j =>
      rw [runSteps] at hb ⊢
      rw [List.take_succ_cons, List.forall_mem_cons, List.exists_mem_cons_iff]
      cases hedit : (s.step op).1.isEdit with
      | true =>
        have hbuilds := le_build_of_taken (buildsFrom_of_isEdit hedit) hb
        exact .inr ⟨Nat.lt_of_lt_of_le (hnumbered a ha) hbuilds, .inl rfl⟩
      | false =>
        rcases ih (isNumbered_step hnumbered op) (cached_of_not_isEdit ha hedit) hb with
          ⟨hsame, hnone⟩ | ⟨hlt, hsome⟩
        · exact .inl ⟨hsame, rfl, hnone⟩
        · exact .inr ⟨hlt, .inr hsome⟩

/-- Of two snapshots taken, the later one is the earlier one if nothing was edited in between, else
a newer one. -/
theorem taken_of_taken {i j : Nat} (hnumbered : s.store.IsNumbered) (hij : i < j)
    (ha : (runSteps step s ops).1[i]? = some (.taken a))
    (hb : (runSteps step s ops).1[j]? = some (.taken b)) :
    (a = b ∧ ∀ answer ∈ ((runSteps step s ops).1.take j).drop (i + 1), answer.isEdit = false) ∨
    a.build < b.build ∧
      ∃ answer ∈ ((runSteps step s ops).1.take j).drop (i + 1), answer.isEdit := by
  induction ops generalizing s i j with
  | nil => cases hb
  | cons op ops ih =>
    obtain ⟨j, rfl⟩ := Nat.exists_eq_add_one_of_ne_zero (Nat.ne_zero_of_lt hij)
    rw [runSteps] at ha hb ⊢
    rw [List.take_succ_cons, List.drop_succ_cons]
    cases i with
    | zero =>
      obtain ⟨rfl, hstore⟩ := of_step_taken (Option.some.inj ha)
      have hcached : (s.step op).2.store.cached = some s.store.snapshot.1 := by
        rw [hstore, cached_snapshot]
      exact taken_of_cached (isNumbered_step hnumbered op) hcached hb
    | succ i => exact ih (isNumbered_step hnumbered op) (Nat.lt_of_succ_lt_succ hij) ha hb

end State

/-! ## The store in use -/

/-- A store started from any catalog answers every run as the ledger does, which has no cache. Its
revision counts the edits that were done. An edit that fails, for want of the role or of a record,
changes nothing, so that it can be left out of the run. Two snapshots taken are the same shared one
just when nothing was edited in between. -/
theorem run_refines (c : Catalog K) (ops : List (Operation K)) :
    let start : State K := { store := ofCatalog c }
    let answers := (runSteps State.step start ops).1
    let last := (runSteps State.step start ops).2
    let kept := (ops.zip answers).filter fun asked => !asked.2.isRefusal
    answers.map (Answer.map (·.snapshot)) = (runSteps Ledger.step { catalog := c } ops).1 ∧
      last.store.snapshot.1.snapshot = last.store.catalog.snapshot last.store.revision ∧
      last.store.revision = answers.countP (·.isEdit) ∧
      (∀ role e error, ((last.store.edit role e).1 = .error error ↔
          last.store.catalog.Refuses role e error) ∧
        ((last.store.edit role e).1 = .error error → (last.store.edit role e).2 = last.store)) ∧
      runSteps State.step start (kept.map Prod.fst) = (kept.map Prod.snd, last) ∧
      ∀ i j a b, i < j → answers[i]? = some (.taken a) → answers[j]? = some (.taken b) →
        (a.build = b.build ↔ a = b) ∧
        (a = b ↔ ∀ answer ∈ (answers.take j).drop (i + 1), answer.isEdit = false) := by
  intro start answers last kept
  have hstart : Represents start { catalog := c } :=
    ⟨rfl, rfl, isCurrent_ofCatalog c, rfl⟩
  obtain ⟨hanswers, hlast⟩ := runSteps_simulates _ (fun _ _ op h => h.step op) hstart ops
  refine ⟨hanswers, hlast.isCurrent.snapshot.1, ?_, fun role e error => ?_, ?_, ?_⟩
  · exact (State.revision_run start ops).trans (Nat.zero_add _)
  · exact ⟨edit_eq_error_iff, edit_of_error⟩
  · exact runSteps_filter (fun answer => !answer.isRefusal)
      (fun s op h => State.step_of_isRefusal (by simpa using h)) start ops
  · intro i j a b hij ha hb
    rcases State.taken_of_taken (s := start) nofun hij ha hb with ⟨rfl, hnone⟩ | ⟨hlt, hsome⟩
    · exact ⟨iff_of_true rfl rfl, iff_of_true rfl hnone⟩
    · obtain ⟨answer, hanswer, hedit⟩ := hsome
      have hne : a ≠ b := fun hsame => Nat.ne_of_lt hlt (congrArg _ hsame)
      refine ⟨iff_of_false (Nat.ne_of_lt hlt) hne, iff_of_false hne fun hnone => ?_⟩
      rw [hnone answer hanswer] at hedit
      cases hedit

/-- A snapshot is shared until an expert's edit. -/
example :
    let start : State Binary64 := { store := ofCatalog ⟨[], [], []⟩ }
    let ops : List (Operation Binary64) := [.snapshot, .edit .user (.remove .rules "R1"), .snapshot,
      .edit .expert (.upsert (.symptom ⟨"G01", "Engine hard to start", ""⟩)), .snapshot]
    (runSteps State.step start ops).2.taken.map (·.build) = [0, 0, 1] := rfl

end CertaintyFactor.CatalogStore
