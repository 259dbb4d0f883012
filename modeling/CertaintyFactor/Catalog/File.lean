import CertaintyFactor.Catalog.Format
import CertaintyFactor.Catalog.Snapshot

/-!
# Catalogs in files

A catalog in a file is read again for every question, so each answer is about the file as it is at
that moment. Its revision is the number of times it was read with success.
-/

set_option autoImplicit false

namespace CertaintyFactor

/-- A catalog in a file. -/
structure FileCatalog where
  path : String
  format : Catalog.Format
  loads : Nat := 0
deriving DecidableEq, Repr

namespace FileCatalog

/-- A catalog in a file of the given format, whatever its name. -/
def withFormat (path : String) (format : Catalog.Format) : FileCatalog where
  path := path
  format := format

def ofPath (path : String) : Except Catalog.Error FileCatalog := do
  return { path := path, format := ← Catalog.Format.ofPath path }

/-- What the content of the file, or the failure to read it, says about the catalog. -/
def interpret (f : FileCatalog) (content : Except DiskError String) :
    Except Catalog.Error (Catalog Binary64) :=
  match content with
  | .error e => .error (.unreadable f.path e)
  | .ok text => Catalog.parse f.format text

/-- The same, with the load counted when it succeeded. -/
def loaded (f : FileCatalog) (content : Except DiskError String) :
    Except Catalog.Error (Catalog Binary64) × FileCatalog :=
  match f.interpret content with
  | .ok c => (.ok c, { f with loads := f.loads + 1 })
  | .error e => (.error e, f)

def load {m : Type → Type} [Monad m] [Disk m] (f : FileCatalog) :
    m (Except Catalog.Error (Catalog Binary64) × FileCatalog) := do
  return f.loaded (← Disk.readText f.path)

/-- The snapshot of the file's catalog, whose revision counts its own load. -/
def snapshot {m : Type → Type} [Monad m] [Disk m] (f : FileCatalog) :
    m (Except Catalog.Error (Snapshot Binary64) × FileCatalog) := do
  let (result, f) ← f.load
  return (result.map fun c => c.snapshot f.loads, f)

section

variable {m : Type → Type} [Monad m] [Disk m]

/-- A part of the file's catalog. -/
def part {α : Type} (f : FileCatalog) (select : Catalog Binary64 → α) :
    m (Except Catalog.Error α × FileCatalog) := do
  let (result, f) ← f.load
  return (result.map select, f)

def symptoms (f : FileCatalog) : m (Except Catalog.Error (List Symptom) × FileCatalog) :=
  f.part (·.symptoms)

def damages (f : FileCatalog) : m (Except Catalog.Error (List Damage) × FileCatalog) :=
  f.part (·.damages)

def ruleDefinitions (f : FileCatalog) :
    m (Except Catalog.Error (List (RuleDefinition Binary64)) × FileCatalog) :=
  f.part (·.rules)

/-- The rules joined with their records, as a snapshot has them. -/
def rules (f : FileCatalog) : m (Except Catalog.Error (List (Rule Binary64)) × FileCatalog) := do
  let (result, f) ← f.snapshot
  return (result.map (·.rules), f)

end

/-- How often the file was read with success. -/
def revision (f : FileCatalog) : Nat :=
  f.loads

end FileCatalog

end CertaintyFactor
