import CertaintyFactor.Catalog.Format

/-!
# Catalog edits

Experts put records into a catalog and take them out. Putting a record in replaces the first one
with its code, in place, or adds it at the end. Taking a symptom or damage out also takes out what
refers to it: the entries that name the symptom, the rules that lead to the damage.
-/

set_option autoImplicit false

namespace CertaintyFactor

/-- A record of any of a catalog's lists. -/
inductive Record (K : Type) where
  | symptom (record : Symptom)
  | damage (record : Damage)
  | rule (record : RuleDefinition K)
deriving DecidableEq, Repr

def Record.collection {K : Type} : Record K → Collection
  | symptom _ => .symptoms
  | damage _ => .damages
  | rule _ => .rules

inductive Edit (K : Type) where
  | upsert (record : Record K)
  | remove (collection : Collection) (code : String)
deriving DecidableEq, Repr

def Edit.action {K : Type} : Edit K → String
  | upsert record => s!"edit {record.collection.plural}"
  | remove collection _ => s!"remove {collection.plural}"

/-- A list with a record put in. -/
def upsert {α : Type} (code : α → String) (record : α) : List α → List α
  | [] => [record]
  | a :: rest => if code a = code record then record :: rest else a :: upsert code record rest

/-- The first record with a code, and the list without it. -/
def takeOut? {α : Type} (code : α → String) (key : String) : List α → Option (α × List α)
  | [] => none
  | a :: rest =>
    if code a = key then some (a, rest)
    else (takeOut? code key rest).map fun (found, rest) => (found, a :: rest)

namespace Catalog

variable {K : Type}

/-- The catalog without the entries that name a symptom. -/
def forgetSymptom (c : Catalog K) (code : String) : Catalog K :=
  { c with rules := c.rules.map fun r =>
      { r with entries := r.entries.filter (·.symptomId ≠ code) } }

/-- The catalog without the rules that lead to a damage. -/
def forgetDamage (c : Catalog K) (code : String) : Catalog K :=
  { c with rules := c.rules.filter (·.damageId ≠ code) }

def insert (c : Catalog K) : Record K → Catalog K
  | .symptom record => { c with symptoms := upsert (·.id) record c.symptoms }
  | .damage record => { c with damages := upsert (·.id) record c.damages }
  | .rule record => { c with rules := upsert (·.id) record c.rules }

/-- The first record with a code, and the catalog without it and what refers to it. -/
def erase? (c : Catalog K) (collection : Collection) (code : String) :
    Option (Record K × Catalog K) :=
  match collection with
  | .symptoms => (takeOut? (·.id) code c.symptoms).map fun (found, rest) =>
      (.symptom found, { c with symptoms := rest }.forgetSymptom code)
  | .damages => (takeOut? (·.id) code c.damages).map fun (found, rest) =>
      (.damage found, { c with damages := rest }.forgetDamage code)
  | .rules => (takeOut? (·.id) code c.rules).map fun (found, rest) =>
      (.rule found, { c with rules := rest })

/-- The record an edit took out, if it took one out, and the catalog after it. -/
def apply (c : Catalog K) (edit : Edit K) : Except Error (Option (Record K) × Catalog K) :=
  match edit with
  | .upsert record => .ok (none, c.insert record)
  | .remove collection code =>
    match c.erase? collection code with
    | some (found, c) => .ok (some found, c)
    | none => .error (.notFound collection code)

/-- The same, for the role that acts. Who may not edit is told so whatever there is to edit. -/
def edit (c : Catalog K) (role : Role) (edit : Edit K) :
    Except Error (Option (Record K) × Catalog K) :=
  if role.canEditCatalog then c.apply edit else .error (.forbidden role edit.action)

end Catalog

end CertaintyFactor
