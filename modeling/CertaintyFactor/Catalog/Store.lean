import CertaintyFactor.Catalog.Edit
import CertaintyFactor.Catalog.Snapshot

/-!
# Catalog stores

A store holds a catalog in memory, counts its edits and keeps the last snapshot until the next edit.
Snapshots are shared: each one built gets a number of its own, and two of the same number are the
same snapshot.
-/

set_option autoImplicit false

namespace CertaintyFactor

/-- A snapshot with the number under which it was built. -/
structure SharedSnapshot (K : Type) where
  build : Nat
  snapshot : Snapshot K
deriving DecidableEq, Repr

/-- A catalog in memory. -/
structure CatalogStore (K : Type) where
  catalog : Catalog K
  /-- The number of edits so far. -/
  revision : Nat := 0
  builds : Nat := 0
  cached : Option (SharedSnapshot K) := none
deriving DecidableEq, Repr

namespace CatalogStore

variable {K : Type}

def ofCatalog (c : Catalog K) : CatalogStore K where
  catalog := c

/-- Does an edit. One that fails changes nothing. -/
def edit (s : CatalogStore K) (role : Role) (e : Edit K) :
    Except Catalog.Error (Option (Record K)) × CatalogStore K :=
  match s.catalog.edit role e with
  | .ok (removed, c) =>
    (.ok removed, { s with catalog := c, revision := s.revision + 1, cached := none })
  | .error e => (.error e, s)

/-- The current snapshot, which is built unless the last one is still current. -/
def snapshot [Confidence K] (s : CatalogStore K) : SharedSnapshot K × CatalogStore K :=
  match s.cached with
  | some shared => (shared, s)
  | none =>
    let shared := ⟨s.builds, s.catalog.snapshot s.revision⟩
    (shared, { s with builds := s.builds + 1, cached := some shared })

end CatalogStore

end CertaintyFactor
