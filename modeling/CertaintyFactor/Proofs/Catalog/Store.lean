import CertaintyFactor.Catalog.Store
import Mathlib.Data.List.Basic

/-!
# Catalog stores and their snapshots

What one step of a store does: an edit replaces the catalog, counts and empties the cache, or fails
and changes nothing; a snapshot is the cached one or a new one. So a cached snapshot is always that
of the current catalog (`CatalogStore.IsCurrent`), and its number is below those of all that are
still to be built (`CatalogStore.IsNumbered`).
-/

set_option autoImplicit false

namespace CertaintyFactor

/-! ## Which edits fail -/

section

variable {α : Type}

theorem takeOut?_eq_none_iff {code : α → String} {key : String} {items : List α} :
    takeOut? code key items = none ↔ ∀ a ∈ items, code a ≠ key := by
  induction items with
  | nil => simp [takeOut?]
  | cons a rest ih =>
    rw [takeOut?, List.forall_mem_cons]
    by_cases hcode : code a = key
    · simp [hcode]
    · rw [if_neg hcode, Option.map_eq_none_iff, ih]
      simp [hcode]

end

section

variable {K : Type}

def Record.code : Record K → String
  | symptom record => record.id
  | damage record => record.id
  | rule record => record.id

namespace Catalog

/-- The records of one of a catalog's lists. -/
def records (c : Catalog K) : Collection → List (Record K)
  | .symptoms => c.symptoms.map .symptom
  | .damages => c.damages.map .damage
  | .rules => c.rules.map .rule

theorem erase?_eq_none_iff {c : Catalog K} {collection : Collection} {code : String} :
    c.erase? collection code = none ↔ ∀ record ∈ c.records collection, record.code ≠ code := by
  cases collection <;>
    simp only [erase?, records, Option.map_eq_none_iff, takeOut?_eq_none_iff, List.forall_mem_map,
      Record.code]

theorem apply_eq_error_iff {c : Catalog K} {e : Edit K} {error : Error} :
    c.apply e = .error error ↔ ∃ collection code, e = .remove collection code ∧
      error = .notFound collection code ∧
      ∀ record ∈ c.records collection, record.code ≠ code := by
  cases e with
  | upsert record => simp [apply]
  | remove collection code =>
    simp only [← erase?_eq_none_iff]
    cases herase : c.erase? collection code with
    | none => simp [apply, herase, eq_comm]
    | some found => simp [apply, herase]

/-- Why an edit fails: the role may not edit, whatever there is to edit, or there is no record of
the code that is to be taken out. -/
inductive Refuses (c : Catalog K) (role : Role) (e : Edit K) : Error → Prop
  | forbidden (h : role ≠ .expert) : c.Refuses role e (.forbidden role e.action)
  | notFound {collection : Collection} {code : String} (h : role = .expert)
      (he : e = .remove collection code)
      (hcode : ∀ record ∈ c.records collection, record.code ≠ code) :
      c.Refuses role e (.notFound collection code)

theorem edit_eq_error_iff {c : Catalog K} {role : Role} {e : Edit K} {error : Error} :
    c.edit role e = .error error ↔ c.Refuses role e error := by
  cases role with
  | user =>
    constructor
    · intro h
      obtain rfl := Except.error.inj h
      exact .forbidden nofun
    · rintro (_ | ⟨hrole, -, -⟩)
      · rfl
      · cases hrole
  | expert =>
    show c.apply e = .error error ↔ _
    rw [apply_eq_error_iff]
    constructor
    · rintro ⟨collection, code, he, rfl, hcode⟩
      exact .notFound rfl he hcode
    · rintro (⟨hrole⟩ | ⟨-, he, hcode⟩)
      · exact absurd rfl hrole
      · exact ⟨_, _, he, rfl, hcode⟩

/-- The catalog that edits lead to, done one after the other. -/
def replay (c : Catalog K) (edits : List (Role × Edit K)) : Except Error (Catalog K) :=
  edits.foldlM (fun c (role, e) => (c.edit role e).map (·.2)) c

theorem replay_concat {c now next : Catalog K} {edits : List (Role × Edit K)} {role : Role}
    {e : Edit K} {removed : Option (Record K)} (h : c.replay edits = .ok now)
    (hedit : now.edit role e = .ok (removed, next)) :
    c.replay (edits ++ [(role, e)]) = .ok next := by
  have hlast : now.replay [(role, e)] = .ok next := by
    unfold replay
    rw [List.foldlM_cons]
    dsimp only
    rw [hedit]
    rfl
  unfold replay at h hlast ⊢
  rw [List.foldlM_append, h]
  exact hlast

end Catalog

end

/-! ## Steps of a store -/

namespace CatalogStore

variable {K : Type}

/-- An edit that succeeds replaces the catalog, counts, and empties the cache; one that fails
changes nothing. -/
theorem edit_cases (s : CatalogStore K) (role : Role) (e : Edit K) :
    (∃ removed c, s.catalog.edit role e = .ok (removed, c) ∧ s.edit role e =
      (.ok removed, { s with catalog := c, revision := s.revision + 1, cached := none })) ∨
    ∃ error, s.catalog.edit role e = .error error ∧ s.edit role e = (.error error, s) := by
  unfold edit
  cases s.catalog.edit role e with
  | ok answer => exact .inl ⟨_, _, rfl, rfl⟩
  | error error => exact .inr ⟨error, rfl, rfl⟩

theorem edit_fst (s : CatalogStore K) (role : Role) (e : Edit K) :
    (s.edit role e).1 = (s.catalog.edit role e).map (·.1) := by
  rcases s.edit_cases role e with ⟨_, _, hcatalog, hedit⟩ | ⟨_, hcatalog, hedit⟩
  · rw [hcatalog, hedit]
    rfl
  · rw [hcatalog, hedit]
    rfl

theorem edit_eq_error_iff {s : CatalogStore K} {role : Role} {e : Edit K} {error : Catalog.Error} :
    (s.edit role e).1 = .error error ↔ s.catalog.Refuses role e error := by
  rw [← Catalog.edit_eq_error_iff]
  rcases s.edit_cases role e with ⟨_, _, hcatalog, hedit⟩ | ⟨_, hcatalog, hedit⟩
  · simp [hcatalog, hedit]
  · simp [hcatalog, hedit]

theorem edit_of_error {s : CatalogStore K} {role : Role} {e : Edit K} {error : Catalog.Error}
    (h : (s.edit role e).1 = .error error) : (s.edit role e).2 = s := by
  rcases s.edit_cases role e with ⟨_, _, -, hedit⟩ | ⟨_, -, hedit⟩
  · rw [hedit] at h
    cases h
  · rw [hedit]

/-- The cached snapshot was built before all that are to come. -/
def IsNumbered (s : CatalogStore K) : Prop :=
  ∀ shared, s.cached = some shared → shared.build < s.builds

/-- All snapshots to come, the cached one among them, have at least the number `n`. -/
structure BuildsFrom (n : Nat) (s : CatalogStore K) : Prop where
  le_builds : n ≤ s.builds
  le_cached : ∀ shared, s.cached = some shared → n ≤ shared.build

theorem IsNumbered.edit {s : CatalogStore K} (h : s.IsNumbered) (role : Role) (e : Edit K) :
    (s.edit role e).2.IsNumbered := by
  rcases s.edit_cases role e with ⟨_, _, -, hedit⟩ | ⟨_, -, hedit⟩
  · rw [hedit]
    exact nofun
  · rw [hedit]
    exact h

theorem BuildsFrom.edit {n : Nat} {s : CatalogStore K} (h : s.BuildsFrom n) (role : Role)
    (e : Edit K) : (s.edit role e).2.BuildsFrom n := by
  rcases s.edit_cases role e with ⟨_, _, -, hedit⟩ | ⟨_, -, hedit⟩
  · rw [hedit]
    exact ⟨h.le_builds, nofun⟩
  · rw [hedit]
    exact h

section

variable [Confidence K]

/-- A snapshot is the cached one, or it is built and cached. -/
theorem snapshot_cases (s : CatalogStore K) :
    (∃ shared, s.cached = some shared ∧ s.snapshot = (shared, s)) ∨
    s.cached = none ∧ s.snapshot = (⟨s.builds, s.catalog.snapshot s.revision⟩,
      { s with
        builds := s.builds + 1
        cached := some ⟨s.builds, s.catalog.snapshot s.revision⟩ }) := by
  unfold snapshot
  cases hcached : s.cached with
  | some shared => exact .inl ⟨shared, rfl, rfl⟩
  | none => exact .inr ⟨rfl, rfl⟩

/-- What is cached is the snapshot of the current catalog. -/
def IsCurrent (s : CatalogStore K) : Prop :=
  ∀ shared, s.cached = some shared → shared.snapshot = s.catalog.snapshot s.revision

theorem isCurrent_ofCatalog (c : Catalog K) : (ofCatalog c).IsCurrent :=
  nofun

theorem IsCurrent.edit {s : CatalogStore K} (h : s.IsCurrent) (role : Role) (e : Edit K) :
    (s.edit role e).2.IsCurrent := by
  rcases s.edit_cases role e with ⟨_, _, -, hedit⟩ | ⟨_, -, hedit⟩
  · rw [hedit]
    exact nofun
  · rw [hedit]
    exact h

/-- Taking a snapshot gives that of the current catalog, which stays. -/
theorem IsCurrent.snapshot {s : CatalogStore K} (h : s.IsCurrent) :
    s.snapshot.1.snapshot = s.catalog.snapshot s.revision ∧ s.snapshot.2.catalog = s.catalog ∧
      s.snapshot.2.revision = s.revision ∧ s.snapshot.2.IsCurrent := by
  rcases s.snapshot_cases with ⟨shared, hcached, hsnapshot⟩ | ⟨-, hsnapshot⟩
  · rw [hsnapshot]
    exact ⟨h shared hcached, rfl, rfl, h⟩
  · rw [hsnapshot]
    refine ⟨rfl, rfl, rfl, fun shared hshared => ?_⟩
    obtain rfl := Option.some.inj hshared
    rfl

/-- The store is at what the edits that were done lead to from a catalog. -/
structure IsAfter (c : Catalog K) (edits : List (Role × Edit K)) (s : CatalogStore K) : Prop where
  catalog : c.replay edits = .ok s.catalog
  revision : s.revision = edits.length
  isCurrent : s.IsCurrent

theorem isAfter_ofCatalog (c : Catalog K) : (ofCatalog c).IsAfter c [] :=
  ⟨rfl, rfl, isCurrent_ofCatalog c⟩

namespace IsAfter

variable {c : Catalog K} {edits : List (Role × Edit K)} {s : CatalogStore K}

/-- An edit joins those that were done, or leaves the store as it is. -/
theorem edit (h : s.IsAfter c edits) (role : Role) (e : Edit K) :
    (∃ removed, (s.edit role e).1 = .ok removed ∧
      (s.edit role e).2.IsAfter c (edits ++ [(role, e)])) ∨
    ∃ error, (s.edit role e).1 = .error error ∧ (s.edit role e).2.IsAfter c edits := by
  have hcurrent := h.isCurrent.edit role e
  rcases s.edit_cases role e with ⟨removed, next, hnext, hedit⟩ | ⟨error, -, hedit⟩
  · rw [hedit] at hcurrent ⊢
    refine .inl ⟨removed, rfl, Catalog.replay_concat h.catalog hnext, ?_, hcurrent⟩
    rw [List.length_append, List.length_singleton]
    exact congrArg (· + 1) h.revision
  · rw [hedit]
    exact .inr ⟨error, rfl, h⟩

theorem snapshot (h : s.IsAfter c edits) :
    s.snapshot.1.snapshot = s.catalog.snapshot edits.length ∧ s.snapshot.2.IsAfter c edits := by
  obtain ⟨hshared, hcatalog, hrevision, hcurrent⟩ := h.isCurrent.snapshot
  refine ⟨by rw [hshared, h.revision], ?_, hrevision.trans h.revision, hcurrent⟩
  rw [hcatalog]
  exact h.catalog

end IsAfter

theorem IsNumbered.snapshot {s : CatalogStore K} (h : s.IsNumbered) :
    s.snapshot.2.IsNumbered := by
  rcases s.snapshot_cases with ⟨_, -, hsnapshot⟩ | ⟨-, hsnapshot⟩
  · rw [hsnapshot]
    exact h
  · rw [hsnapshot]
    intro shared hshared
    obtain rfl := Option.some.inj hshared
    exact Nat.lt_succ_self _

theorem BuildsFrom.snapshot {n : Nat} {s : CatalogStore K} (h : s.BuildsFrom n) :
    n ≤ s.snapshot.1.build ∧ s.snapshot.2.BuildsFrom n := by
  rcases s.snapshot_cases with ⟨shared, hcached, hsnapshot⟩ | ⟨-, hsnapshot⟩
  · rw [hsnapshot]
    exact ⟨h.le_cached shared hcached, h⟩
  · rw [hsnapshot]
    refine ⟨h.le_builds, Nat.le_succ_of_le h.le_builds, fun shared hshared => ?_⟩
    obtain rfl := Option.some.inj hshared
    exact h.le_builds

theorem cached_snapshot (s : CatalogStore K) : s.snapshot.2.cached = some s.snapshot.1 := by
  rcases s.snapshot_cases with ⟨_, hcached, hsnapshot⟩ | ⟨-, hsnapshot⟩
  · rw [hsnapshot]
    exact hcached
  · rw [hsnapshot]

end

end CatalogStore

end CertaintyFactor
