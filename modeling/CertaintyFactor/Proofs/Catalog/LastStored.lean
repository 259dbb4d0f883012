import CertaintyFactor.Proofs.Catalog.Updates
import CertaintyFactor.Proofs.Run
import Mathlib.Data.List.Induction

/-!
# What a store holds after a row of edits

Along a row of edits by any role the codes of a store stay unique, and its lookups are those of a
finite map, updated by each edit that was done. So what is found under a key is always the record
last stored there: the one that stood there at first or was last put in, less the entries that
symptoms taken out since took along (`Catalog.LastStored`).
-/

set_option autoImplicit false

namespace CertaintyFactor

variable {K : Type}

/-! ## Entries taken along -/

/-- The symptoms that edits take out. -/
def takenSymptoms (edits : List (Edit K)) : List String :=
  edits.filterMap fun
    | .remove .symptoms code => some code
    | _ => none

theorem takenSymptoms_append (edits later : List (Edit K)) :
    takenSymptoms (edits ++ later) = takenSymptoms edits ++ takenSymptoms later :=
  List.filterMap_append

namespace Record

theorem lessEntries_nil (record : Record K) : record.lessEntries [] = record := by
  cases record with
  | symptom record => rfl
  | damage record => rfl
  | rule r => simp [lessEntries]

theorem lessEntries_append (codes later : List String) (record : Record K) :
    record.lessEntries (codes ++ later) = (record.lessEntries codes).lessEntries later := by
  cases record with
  | symptom record => rfl
  | damage record => rfl
  | rule r =>
    simp only [lessEntries, List.filter_filter]
    congr 2
    apply List.filter_congr
    intro entry hentry
    rw [Bool.and_comm]
    simp

theorem eq_lessEntries_of_without {collection : Collection} {code : String}
    {record left : Record K} (h : record.without collection code = some left) :
    left = record.lessEntries (takenSymptoms [(.remove collection code : Edit K)]) := by
  rw [eq_of_without h]
  cases collection with
  | symptoms => rfl
  | damages => exact (lessEntries_nil record).symm
  | rules => exact (lessEntries_nil record).symm

end Record

/-! ## Records last stored -/

namespace Catalog

variable {c : Catalog K} {key : Collection × String} {done : List (Edit K)} {e : Edit K}

/-- A record was stored under a key: it stood there at first, or one of the edits that were done put
it in. The last list is of the edits done since. -/
inductive Stored (c : Catalog K) (key : Collection × String) :
    List (Edit K) → Record K → List (Edit K) → Prop
  | seeded {done : List (Edit K)} {record : Record K} (h : c.record? key = some record) :
      c.Stored key done record done
  | upserted {before since : List (Edit K)} {record : Record K} (h : record.key = key) :
      c.Stored key (before ++ .upsert record :: since) record since

/-- What is left of the record last stored under a key. No edit was done under the key since. -/
def LastStored (c : Catalog K) (key : Collection × String) (done : List (Edit K))
    (record : Record K) : Prop :=
  ∃ origin since, c.Stored key done origin since ∧ (∀ e ∈ since, e.key ≠ key) ∧
    record = origin.lessEntries (takenSymptoms since)

theorem Stored.concat {record : Record K} {since : List (Edit K)}
    (h : c.Stored key done record since) (e : Edit K) :
    c.Stored key (done ++ [e]) record (since ++ [e]) := by
  cases h with
  | seeded hrecord => exact .seeded hrecord
  | upserted hrecord =>
    rw [List.append_assoc]
    exact .upserted hrecord

/-- An edit under another key may take entries along. -/
theorem LastStored.concat {record : Record K} (h : c.LastStored key done record)
    (hkey : e.key ≠ key) :
    c.LastStored key (done ++ [e]) (record.lessEntries (takenSymptoms [e])) := by
  obtain ⟨origin, since, hstored, hsince, rfl⟩ := h
  refine ⟨origin, since ++ [e], hstored.concat e, ?_, ?_⟩
  · intro later hlater
    rcases List.mem_append.1 hlater with hmem | hmem
    · exact hsince later hmem
    · rw [List.mem_singleton.1 hmem]
      exact hkey
  · rw [takenSymptoms_append, Record.lessEntries_append]

/-- If a map finds what was last stored, it does so after an update. -/
theorem lastStored_update {m : Collection × String → Option (Record K)}
    (hm : ∀ key record, m key = some record → c.LastStored key done record) (e : Edit K)
    {record : Record K} (h : e.update m key = some record) :
    c.LastStored key (done ++ [e]) record := by
  cases e with
  | upsert new =>
    rw [Edit.update] at h
    by_cases hkey : key = new.key
    · rw [hkey, Function.update_self] at h
      obtain rfl := Option.some.inj h
      exact ⟨new, [], .upserted hkey.symm, List.forall_mem_nil _, new.lessEntries_nil.symm⟩
    · rw [Function.update_of_ne hkey] at h
      have hlast := (hm key record h).concat (e := .upsert new) (Ne.symm hkey)
      rwa [show takenSymptoms [Edit.upsert new] = [] from rfl, Record.lessEntries_nil] at hlast
  | remove collection code =>
    rw [Edit.update] at h
    by_cases hkey : key = (collection, code)
    · rw [hkey, Function.update_self] at h
      cases h
    · rw [Function.update_of_ne hkey] at h
      obtain ⟨old, hold, hleft⟩ := Option.bind_eq_some_iff.1 h
      rw [Record.eq_lessEntries_of_without hleft]
      exact (hm key old hold).concat (Ne.symm hkey)

/-- What a finite map finds after a row of updates is what was last stored. -/
theorem lastStored_foldl (c : Catalog K) (done : List (Edit K)) (key : Collection × String)
    (record : Record K) (h : done.foldl (fun m e => e.update m) c.record? key = some record) :
    c.LastStored key done record := by
  induction done using List.reverseRecOn generalizing key record with
  | nil => exact ⟨record, [], .seeded h, List.forall_mem_nil _, record.lessEntries_nil.symm⟩
  | append_singleton done e ih =>
    rw [List.foldl_append, List.foldl_cons, List.foldl_nil] at h
    exact lastStored_update ih e h

theorem Updates.record?_of_removed {next : Catalog K} {removed : Option (Record K)}
    (h : c.Updates next e removed) {record : Record K} (hremoved : removed = some record) :
    c.record? e.key = some record := by
  cases h with
  | replaced => cases hremoved
  | added => cases hremoved
  | removed hfound =>
    cases hremoved
    exact hfound

end Catalog

/-! ## Rows of edits -/

namespace CatalogStore

/-- The edits that were done, of those that were asked for. -/
def doneEdits (past : List ((Role × Edit K) × Except Catalog.Error (Option (Record K)))) :
    List (Edit K) :=
  past.filterMap fun
    | ((_, e), .ok _) => some e
    | (_, .error _) => none

theorem doneEdits_cons_error {asked : Role × Edit K} {error : Catalog.Error}
    {past : List ((Role × Edit K) × Except Catalog.Error (Option (Record K)))} :
    doneEdits ((asked, .error error) :: past) = doneEdits past :=
  rfl

theorem doneEdits_cons_ok {asked : Role × Edit K} {removed : Option (Record K)}
    {past : List ((Role × Edit K) × Except Catalog.Error (Option (Record K)))} :
    doneEdits ((asked, .ok removed) :: past) = asked.2 :: doneEdits past :=
  rfl

/-- The codes of a store are unique, and its lookups are those of a catalog, updated by edits. -/
structure HoldsAfter (c : Catalog K) (done : List (Edit K)) (s : CatalogStore K) : Prop where
  codes : s.catalog.HasUniqueCodes
  lookups : s.catalog.record? = done.foldl (fun m e => e.update m) c.record?

theorem holdsAfter_ofCatalog {c : Catalog K} (hc : c.HasUniqueCodes) :
    (ofCatalog c).HoldsAfter c [] :=
  ⟨hc, rfl⟩

/-- What an edit does that follows those that were done since the store started. -/
structure UpdatedAfter (c : Catalog K) (done : List (Edit K)) (s next : CatalogStore K) (e : Edit K)
    (removed : Option (Record K)) : Prop where
  lists : s.catalog.Updates next.catalog e removed
  lookups : next.catalog.record? = e.update s.catalog.record?
  removed : ∀ record, removed = some record → c.LastStored e.key done record

namespace HoldsAfter

variable {c : Catalog K} {done : List (Edit K)} {s : CatalogStore K}

theorem edit (h : s.HoldsAfter c done) (role : Role) (e : Edit K) :
    (∃ error, s.catalog.Refuses role e error ∧ s.edit role e = (.error error, s)) ∨
    ∃ removed next, s.edit role e = (.ok removed, next) ∧ UpdatedAfter c done s next e removed ∧
      next.HoldsAfter c (done ++ [e]) := by
  rcases s.edit_cases role e with ⟨removed, next, hnext, hedit⟩ | ⟨error, herror, hedit⟩
  · have hupdates := h.codes.updates hnext
    have hlookups := h.codes.record?_eq_update hnext
    refine .inr ⟨removed, _, hedit, ⟨hupdates, hlookups, fun record hremoved => ?_⟩,
      hupdates.hasUniqueCodes h.codes, ?_⟩
    · apply Catalog.lastStored_foldl
      rw [← h.lookups]
      exact hupdates.record?_of_removed hremoved
    · rw [List.foldl_append, List.foldl_cons, List.foldl_nil, ← h.lookups]
      exact hlookups
  · exact .inl ⟨error, Catalog.edit_eq_error_iff.1 herror, hedit⟩

theorem run (h : s.HoldsAfter c done) (asked : List (Role × Edit K)) :
    let run := runSteps (fun s asked => s.edit asked.1 asked.2) s asked
    run.2.HoldsAfter c (done ++ doneEdits (asked.zip run.1)) := by
  induction asked generalizing s done with
  | nil =>
    show s.HoldsAfter c (done ++ [])
    rwa [List.append_nil]
  | cons first rest ih =>
    simp only [runSteps, List.zip_cons_cons]
    rcases h.edit first.1 first.2 with ⟨error, -, hedit⟩ | ⟨removed, next, hedit, -, hnext⟩
    · rw [hedit, doneEdits_cons_error]
      exact ih h
    · rw [hedit, doneEdits_cons_ok, List.append_cons]
      exact ih hnext

end HoldsAfter

/-- After any row of edits, by any roles, of a store that started from unique codes, the codes are
unique still, and the lookups are those of a finite map that was updated by the edits that were
done. One more edit is refused or is an update, of the lookups and of the lists in their order. What
it takes out is the record last stored there, less the entries that symptoms taken out since took
along. -/
theorem runSteps_edit_updates (c : Catalog K) (hc : c.HasUniqueCodes)
    (asked : List (Role × Edit K)) :
    let run := runSteps (fun s asked => s.edit asked.1 asked.2) (ofCatalog c) asked
    let done := doneEdits (asked.zip run.1)
    run.2.catalog.HasUniqueCodes ∧
      run.2.catalog.record? = done.foldl (fun m e => e.update m) c.record? ∧
      ∀ role e,
        (∃ error, run.2.catalog.Refuses role e error ∧
          run.2.edit role e = (.error error, run.2)) ∨
        ∃ removed next, run.2.edit role e = (.ok removed, next) ∧
          UpdatedAfter c done run.2 next e removed := by
  intro run done
  have hrun := (holdsAfter_ofCatalog hc).run asked
  refine ⟨hrun.codes, hrun.lookups, fun role e => ?_⟩
  rcases hrun.edit role e with hrefused | ⟨removed, next, hedit, hupdated, -⟩
  · exact .inl hrefused
  · exact .inr ⟨removed, next, hedit, hupdated⟩

/-- Two symptoms that speak for one damage. -/
def sparkCatalog : Catalog Binary64 where
  symptoms := [⟨"G01", "Engine hard to start", ""⟩, ⟨"G02", "Engine dies at idle", ""⟩]
  damages := [⟨"K01", "Fouled spark plug", "", ""⟩]
  rules := [⟨"R1", "K01", [⟨"G01", 0.8⟩, ⟨"G02", 0.4⟩]⟩]

theorem runSteps_edit_updates_spark :
    sparkCatalog.HasUniqueCodes ∧
      let asked : List (Role × Edit Binary64) :=
        [(.user, .remove .rules "R1"), (.expert, .remove .symptoms "G01")]
      let run := runSteps (fun s asked => s.edit asked.1 asked.2) (ofCatalog sparkCatalog) asked
      let left : Record Binary64 := .rule ⟨"R1", "K01", [⟨"G02", 0.4⟩]⟩
      ∃ next, run.2.edit .expert (.remove .rules "R1") = (.ok (some left), next) ∧
        UpdatedAfter sparkCatalog [.remove .symptoms "G01"] run.2 next (.remove .rules "R1")
          (some left) := by
  have hcodes : sparkCatalog.HasUniqueCodes := by
    intro collection
    cases collection <;> decide
  refine ⟨hcodes, ?_⟩
  intro asked run left
  obtain ⟨-, -, hedits⟩ := runSteps_edit_updates sparkCatalog hcodes asked
  have hleft : (run.2.edit .expert (.remove .rules "R1")).1 = .ok (some left) := rfl
  rcases hedits .expert (.remove .rules "R1") with ⟨error, -, hedit⟩ | ⟨removed, next, hedit, h⟩
  · cases hleft.symm.trans (congrArg Prod.fst hedit)
  · obtain rfl := Except.ok.inj ((congrArg Prod.fst hedit).symm.trans hleft)
    exact ⟨next, hedit, h⟩

end CatalogStore

end CertaintyFactor
