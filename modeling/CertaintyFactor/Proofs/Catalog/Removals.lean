import CertaintyFactor.Proofs.Catalog.References

/-!
# What a removal leaves behind

A catalog may list a code several times. A removal takes out the first record of its code only, but
all that refers to the code, so that the later records are left with nothing that refers to them;
removing the code again takes the next one out (`run_removes`). Nothing of a code is left (`IsGone`)
just when it stood there once. That is so after any history if the catalog listed it at most once
at first, since no edit lists a code again that is listed (`State.length_recordsOf_run`).
-/

set_option autoImplicit false

namespace CertaintyFactor

section

variable {α : Type} {code : α → String} {key : String} {items : List α}

/-- The item that is taken out is the first of those with its code, and all others of them stay. -/
theorem filter_of_takeOut? {found : α} {rest : List α}
    (h : takeOut? code key items = some (found, rest)) :
    items.filter (code · == key) = found :: rest.filter (code · == key) := by
  obtain ⟨before, after, rfl, rfl, hfound, hbefore⟩ := takeOut?_eq_some_iff.1 h
  have hnone : before.filter (code · == key) = [] := by
    rw [List.filter_eq_nil_iff]
    intro b hb
    simpa using hbefore b hb
  have hfirst : (found :: after).filter (code · == key) = found :: after.filter (code · == key) :=
    List.filter_cons_of_pos (beq_iff_eq.2 hfound)
  rw [List.filter_append, List.filter_append, hnone, hfirst]
  rfl

/-- A record put in is the only one of a new code, and otherwise adds none to a code. -/
theorem count_upsert_le (record : α) :
    ((upsert code record items).map code).count key ≤ max ((items.map code).count key) 1 := by
  rcases upsert_cases code record items with
    ⟨before, old, after, rfl, hcode, hupsert⟩ | ⟨hnew, hupsert⟩
  · rw [hupsert, List.map_append, List.map_append, List.map_cons, List.map_cons, hcode]
    exact Nat.le_max_left ..
  · rw [hupsert, List.map_append, List.count_append, List.map_singleton, List.count_singleton]
    by_cases hkey : code record = key
    · have hnone : (items.map code).count key = 0 := by
        rw [List.count_eq_zero, List.mem_map]
        rintro ⟨a, ha, hcode⟩
        exact hnew a ha (hcode.trans hkey.symm)
      rw [hnone, Nat.zero_add]
      split <;> omega
    · rw [if_neg (by simpa using hkey), Nat.add_zero]
      exact Nat.le_max_left ..

end

/-! ## The records of a code -/

namespace Catalog

variable {K : Type}

/-- The records of a code in one of the lists, in their order. -/
def recordsOf (c : Catalog K) (collection : Collection) (code : String) : List (Record K) :=
  (c.records collection).filter (·.code == code)

/-- No rule refers to what a list has under a code. -/
def IsUnreferenced (c : Catalog K) (collection : Collection) (code : String) : Prop :=
  ∀ rule ∈ c.rules, (.damages, rule.damageId) ≠ (collection, code) ∧
    ∀ entry ∈ rule.entries, (.symptoms, entry.symptomId) ≠ (collection, code)

variable {c next : Catalog K} {collection : Collection} {code : String}

theorem length_recordsOf (c : Catalog K) (collection : Collection) (code : String) :
    (c.recordsOf collection code).length = (c.codes collection).count code := by
  rw [← map_code_records, List.count, List.countP_map, List.countP_eq_length_filter]
  rfl

theorem recordsOf_eq_nil_iff :
    c.recordsOf collection code = [] ↔ ∀ record ∈ c.records collection, record.code ≠ code := by
  simp [recordsOf, List.filter_eq_nil_iff]

/-- The record that is found under a code is the first one of it. -/
theorem head?_recordsOf (c : Catalog K) (collection : Collection) (code : String) :
    (c.recordsOf collection code).head? = c.record? (collection, code) := by
  rw [record?_eq, recordsOf, List.head?_filter]

theorem isUnreferenced_of_erase? {found : Record K}
    (h : c.erase? collection code = some (found, next)) : next.IsUnreferenced collection code := by
  obtain ⟨kept, -, hrules, hdamages⟩ := rules_erase? h
  intro left hleft
  rw [hrules] at hleft
  obtain ⟨rule, hrule, rfl⟩ := List.mem_map.1 hleft
  refine ⟨hdamages rule hrule, fun entry hentry hkey => ?_⟩
  obtain ⟨rfl, rfl⟩ := Prod.mk.inj hkey
  simp [RuleDefinition.less, takenSymptoms] at hentry

/-- A removal takes the first record of a code out, and all that refers to the code. -/
theorem erase?_of_recordsOf {first : Record K} {others : List (Record K)}
    (h : c.recordsOf collection code = first :: others) :
    ∃ next, c.erase? collection code = some (first, next) ∧
      next.recordsOf collection code = others ∧ next.IsUnreferenced collection code := by
  cases herase : c.erase? collection code with
  | none =>
    rw [recordsOf_eq_nil_iff.2 (erase?_eq_none_iff.1 herase)] at h
    cases h
  | some result =>
    obtain ⟨found, next⟩ := result
    have htaken := filter_of_takeOut? (records_erase? herase).1
    obtain ⟨rfl, rfl⟩ := List.cons.inj (h.symm.trans htaken)
    exact ⟨next, rfl, rfl, isUnreferenced_of_erase? herase⟩

/-- An edit gives a code its first record at most. -/
theorem length_recordsOf_edit {role : Role} {e : Edit K} {removed : Option (Record K)}
    (h : c.edit role e = .ok (removed, next)) (collection : Collection) (code : String) :
    (next.recordsOf collection code).length ≤ max (c.recordsOf collection code).length 1 := by
  rw [length_recordsOf, length_recordsOf, ← map_code_records, ← map_code_records]
  rcases of_edit_eq_ok h with ⟨record, rfl, -, rfl⟩ | ⟨list, taken, found, rfl, -, herase⟩
  · by_cases hcollection : collection = record.collection
    · subst hcollection
      rw [records_insert]
      exact count_upsert_le record
    · rw [records_insert_of_ne c hcollection]
      exact Nat.le_max_left ..
  · obtain ⟨htake, hothers⟩ := records_erase? herase
    refine Nat.le_trans (List.Sublist.count_le code ?_) (Nat.le_max_left ..)
    by_cases hcollection : collection = list
    · subst hcollection
      exact (sublist_of_takeOut? htake).map _
    · rw [hothers _ hcollection]
      exact map_filterMap_sublist (fun _ _ => Record.code_of_without) _

end Catalog

/-! ## Removals from a store -/

namespace CatalogStore

variable {K : Type}

theorem remove_of_nil {s : CatalogStore K} {collection : Collection} {code : String}
    (h : s.catalog.recordsOf collection code = []) :
    s.edit .expert (.remove collection code) = (.error (.notFound collection code), s) := by
  have hrefused : (s.edit .expert (.remove collection code)).1 =
      .error (.notFound collection code) :=
    edit_eq_error_iff.2 (.notFound rfl rfl (Catalog.recordsOf_eq_nil_iff.1 h))
  exact Prod.ext hrefused (edit_of_error hrefused)

theorem remove_of_cons {s : CatalogStore K} {collection : Collection} {code : String}
    {first : Record K} {others : List (Record K)}
    (h : s.catalog.recordsOf collection code = first :: others) :
    ∃ next, s.edit .expert (.remove collection code) = (.ok (some first), next) ∧
      next.catalog.recordsOf collection code = others ∧
      next.catalog.IsUnreferenced collection code := by
  obtain ⟨c, herase, hrecords, hunreferenced⟩ := Catalog.erase?_of_recordsOf h
  have hcatalog : s.catalog.edit .expert (.remove collection code) = .ok (some first, c) := by
    have hrole : Role.expert.canEditCatalog := rfl
    rw [Catalog.edit, if_pos hrole, Catalog.apply, herase]
  refine ⟨{ s with catalog := c, revision := s.revision + 1, cached := none }, ?_, hrecords,
    hunreferenced⟩
  rw [edit, hcatalog]

variable [Confidence K]

/-- The current snapshot has this record under a code, in a list that it can be asked for. -/
structure Finds (s : CatalogStore K) (collection : Collection) (code : String)
    (found : Option (Record K)) : Prop where
  symptom : collection = .symptoms →
    (s.snapshot.1.snapshot.symptom? code).map .symptom = found
  damage : collection = .damages →
    (s.snapshot.1.snapshot.damage? code).map .damage = found

theorem IsCurrent.finds {s : CatalogStore K} (h : s.IsCurrent) (collection : Collection)
    (code : String) : s.Finds collection code (s.catalog.recordsOf collection code).head? where
  symptom := by
    rintro rfl
    rw [h.snapshot.1, Catalog.head?_recordsOf]
    rfl
  damage := by
    rintro rfl
    rw [h.snapshot.1, Catalog.head?_recordsOf]
    rfl

/-- Nothing of a code is left, and removing it again changes nothing. -/
structure IsGone (s : CatalogStore K) (collection : Collection) (code : String) : Prop where
  records : ∀ record ∈ s.catalog.records collection, record.code ≠ code
  lookup : s.Finds collection code none
  unreferenced : s.catalog.IsUnreferenced collection code
  again : s.edit .expert (.remove collection code) = (.error (.notFound collection code), s)

namespace State

/-- Over a run too, a code is given its first record at most. -/
theorem length_recordsOf_run {s : State K} (h : s.store.IsCurrent) (ops : List (Operation K))
    (collection : Collection) (code : String) :
    ((runSteps step s ops).2.store.catalog.recordsOf collection code).length ≤
      max (s.store.catalog.recordsOf collection code).length 1 := by
  induction ops generalizing s with
  | nil => exact Nat.le_max_left ..
  | cons op ops ih =>
    obtain ⟨hnext, hedits⟩ := step_edits h op
    refine Nat.le_trans (ih hnext) ?_
    rcases hedits with ⟨e, removed, -, -, hedit⟩ | ⟨-, hcatalog⟩
    · have hstep := Catalog.length_recordsOf_edit hedit collection code
      omega
    · exact Nat.le_of_eq (by rw [hcatalog])

end State

/-- After any history, a removal that answers with a record answers with the first one of the code,
leaves the others, and leaves nothing that refers to the code. So nothing of the code is left just
when it stood there once, as it did if the seed lists it at most once; and else the second record is
found under it, which the same removal takes out next. -/
theorem run_removes (c : Catalog K) (ops : List (Operation K)) (role : Role)
    (collection : Collection) (code : String) (removed : Option (Record K))
    (next : CatalogStore K)
    (h : (runSteps State.step { store := ofCatalog c } ops).2.store.edit role
      (.remove collection code) = (.ok removed, next)) :
    let s := (runSteps State.step { store := ofCatalog c } ops).2.store
    ∃ first others, s.catalog.recordsOf collection code = first :: others ∧
      removed = some first ∧ next.catalog.recordsOf collection code = others ∧
      next.catalog.IsUnreferenced collection code ∧
      (next.IsGone collection code ↔ others = []) ∧
      ((c.recordsOf collection code).length ≤ 1 → next.IsGone collection code) ∧
      ∀ second rest, others = second :: rest → next.Finds collection code (some second) ∧
        ∃ last, next.edit role (.remove collection code) = (.ok (some second), last) ∧
          last.catalog.recordsOf collection code = rest := by
  intro s
  have hstart : (ofCatalog c).IsCurrent := isCurrent_ofCatalog c
  have hcurrent : s.IsCurrent := State.isCurrent_run (s := { store := ofCatalog c }) hstart ops
  cases role with
  | user => cases h
  | expert =>
    have hnext : next.IsCurrent := by
      have hkept := hcurrent.edit .expert (.remove collection code)
      rwa [h] at hkept
    cases hrecords : s.catalog.recordsOf collection code with
    | nil =>
      rw [remove_of_nil hrecords] at h
      cases h
    | cons first others =>
      obtain ⟨after, hremove, hleft, hunreferenced⟩ := remove_of_cons hrecords
      obtain ⟨hremoved, rfl⟩ := Prod.mk.inj (h.symm.trans hremove)
      have hgone : others = [] → next.IsGone collection code := by
        rintro rfl
        have hfinds := hnext.finds collection code
        rw [hleft] at hfinds
        exact ⟨Catalog.recordsOf_eq_nil_iff.1 hleft, hfinds, hunreferenced, remove_of_nil hleft⟩
      refine ⟨first, others, rfl, Except.ok.inj hremoved, hleft, hunreferenced,
        ⟨fun hnone => ?_, hgone⟩, fun hseed => hgone ?_, ?_⟩
      · rw [← hleft, Catalog.recordsOf_eq_nil_iff]
        exact hnone.records
      · -- The code stood once before the removal, since no edit adds to a code that is listed.
        have hlength := State.length_recordsOf_run (s := { store := ofCatalog c }) hstart ops
          collection code
        change (s.catalog.recordsOf collection code).length ≤ _ at hlength
        rw [hrecords, List.length_cons] at hlength
        change others.length + 1 ≤ max (c.recordsOf collection code).length 1 at hlength
        exact List.length_eq_zero_iff.1 (by omega)
      · rintro second rest rfl
        have hfinds := hnext.finds collection code
        rw [hleft] at hfinds
        obtain ⟨last, hagain, hrest, -⟩ := remove_of_cons hleft
        exact ⟨hfinds, last, hagain, hrest⟩

/-- A catalog that lists a symptom twice. -/
def repeatingCatalog : Catalog Binary64 where
  symptoms := [⟨"G01", "Engine hard to start", ""⟩, ⟨"G01", "Engine dies at idle", ""⟩]
  damages := [⟨"K01", "Fouled spark plug", "", ""⟩]
  rules := [⟨"R1", "K01", [⟨"G01", 0.8⟩]⟩]

theorem run_removes_repeating :
    let start : State Binary64 := { store := ofCatalog repeatingCatalog }
    let s := (runSteps State.step start [.snapshot]).2.store
    ∃ next, s.edit .expert (.remove .symptoms "G01") =
        (.ok (some (.symptom ⟨"G01", "Engine hard to start", ""⟩)), next) ∧
      next.catalog.recordsOf .symptoms "G01" =
        [.symptom ⟨"G01", "Engine dies at idle", ""⟩] ∧
      next.catalog.IsUnreferenced .symptoms "G01" ∧ ¬ next.IsGone .symptoms "G01" ∧
      next.Finds .symptoms "G01" (some (.symptom ⟨"G01", "Engine dies at idle", ""⟩)) := by
  intro start s
  have hremove : s.edit .expert (.remove .symptoms "G01") =
      (.ok (some (.symptom ⟨"G01", "Engine hard to start", ""⟩)),
        (s.edit .expert (.remove .symptoms "G01")).2) := by decide +kernel
  obtain ⟨first, others, -, -, hleft, hunreferenced, hgone, -, hsecond⟩ :=
    run_removes repeatingCatalog [.snapshot] .expert .symptoms "G01" _ _ hremove
  have hothers : others = [.symptom ⟨"G01", "Engine dies at idle", ""⟩] := by
    rw [← hleft]
    decide +kernel
  refine ⟨_, hremove, hleft.trans hothers, hunreferenced, fun h => ?_, (hsecond _ _ hothers).1⟩
  rw [hgone.1 h] at hothers
  cases hothers

end CatalogStore

end CertaintyFactor
