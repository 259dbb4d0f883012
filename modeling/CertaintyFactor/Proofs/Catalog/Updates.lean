import CertaintyFactor.Proofs.Catalog.Records
import Mathlib.Logic.Function.Basic

/-!
# Edits as updates of finite maps

Where no code stands in a list twice, the lists of a catalog are a finite map from keys to records,
kept in an order. An edit changes the map at its own key (`Edit.update`), but for what goes along
with a record that is taken out. `Catalog.Updates` says what becomes of the order: a record put in
stands where the one of its code stood, or at the end; one taken out is gone; all others stay where
they are.
-/

set_option autoImplicit false

namespace CertaintyFactor

variable {K : Type}

/-- What an edit makes of a finite map of records. -/
def Edit.update : Edit K → (Collection × String → Option (Record K)) →
    Collection × String → Option (Record K)
  | upsert record, m => Function.update m record.key (some record)
  | remove collection code, m =>
    Function.update (fun key => (m key).bind (Record.without collection code))
      (collection, code) none

namespace Catalog

/-- No code stands in a list twice. -/
def HasUniqueCodes (c : Catalog K) : Prop :=
  ∀ collection, (c.codes collection).Nodup

/-- What an edit makes of the lists of a catalog in which no code stands in a list twice. -/
inductive Updates (c next : Catalog K) : Edit K → Option (Record K) → Prop
  /-- The record stands where the one of its code stood. -/
  | replaced {record old : Record K} {before after : List (Record K)}
      (hcode : old.code = record.code)
      (hold : c.records record.collection = before ++ old :: after)
      (hnext : next.records record.collection = before ++ record :: after)
      (hothers : ∀ other, other ≠ record.collection → next.records other = c.records other) :
      c.Updates next (.upsert record) none
  /-- The record comes at the end, since its code is new. -/
  | added {record : Record K}
      (hnew : ∀ other ∈ c.records record.collection, other.code ≠ record.code)
      (hnext : next.records record.collection = c.records record.collection ++ [record])
      (hothers : ∀ other, other ≠ record.collection → next.records other = c.records other) :
      c.Updates next (.upsert record) none
  /-- The record is gone, and so is its code; the other lists are less what goes along. -/
  | removed {collection : Collection} {code : String} {found : Record K}
      {before after : List (Record K)}
      (hfound : c.record? (collection, code) = some found)
      (hlist : c.records collection = before ++ found :: after)
      (hnext : next.records collection = before ++ after)
      (hgone : ∀ record ∈ next.records collection, record.code ≠ code)
      (hothers : ∀ other, other ≠ collection → next.records other =
        (c.records other).filterMap (Record.without collection code)) :
      c.Updates next (.remove collection code) (some found)

section

variable {c next : Catalog K} {e : Edit K} {removed : Option (Record K)}

theorem HasUniqueCodes.nodup_records (hc : c.HasUniqueCodes) (collection : Collection) :
    ((c.records collection).map Record.code).Nodup := by
  rw [map_code_records]
  exact hc collection

theorem updates_insert (c : Catalog K) (record : Record K) :
    c.Updates (c.insert record) (.upsert record) none := by
  have hothers : ∀ other, other ≠ record.collection →
      (c.insert record).records other = c.records other :=
    fun _ hother => c.records_insert_of_ne hother
  rcases upsert_cases Record.code record (c.records record.collection) with
    ⟨before, old, after, hold, hcode, hupsert⟩ | ⟨hnew, hupsert⟩
  · exact .replaced hcode hold ((c.records_insert record).trans hupsert) hothers
  · exact .added hnew ((c.records_insert record).trans hupsert) hothers

theorem HasUniqueCodes.updates_erase? (hc : c.HasUniqueCodes) {collection : Collection}
    {code : String} {found : Record K} (h : c.erase? collection code = some (found, next)) :
    c.Updates next (.remove collection code) (some found) := by
  obtain ⟨htake, hothers⟩ := records_erase? h
  obtain ⟨before, after, hlist, hnext, rfl, -⟩ := takeOut?_eq_some_iff.1 htake
  have hne : ∀ record ∈ before ++ after, record.code ≠ found.code := by
    intro record hrecord
    have hnodup := hc.nodup_records collection
    rw [hlist] at hnodup
    exact code_ne_of_nodup hnodup hrecord
  have hfound : c.record? (collection, found.code) = some found :=
    (c.record?_eq _ _).trans (find?_of_takeOut? htake)
  refine .removed hfound hlist hnext (fun record hrecord => ?_) hothers
  rw [hnext] at hrecord
  exact hne record hrecord

/-- What an edit that is done does. -/
theorem of_edit_eq_ok {role : Role} (h : c.edit role e = .ok (removed, next)) :
    (∃ record, e = .upsert record ∧ removed = none ∧ next = c.insert record) ∨
    ∃ collection code found, e = .remove collection code ∧ removed = some found ∧
      c.erase? collection code = some (found, next) := by
  cases role with
  | user => cases h
  | expert =>
    change c.apply e = _ at h
    cases e with
    | upsert record =>
      cases h
      exact .inl ⟨record, rfl, rfl, rfl⟩
    | remove collection code =>
      rw [apply] at h
      cases herase : c.erase? collection code with
      | none =>
        rw [herase] at h
        cases h
      | some result =>
        rw [herase] at h
        cases h
        exact .inr ⟨collection, code, result.1, rfl, rfl, herase⟩

/-- An edit that is done is an update. -/
theorem HasUniqueCodes.updates (hc : c.HasUniqueCodes) {role : Role}
    (h : c.edit role e = .ok (removed, next)) : c.Updates next e removed := by
  rcases of_edit_eq_ok h with ⟨record, rfl, rfl, rfl⟩ | ⟨_, _, _, rfl, rfl, herase⟩
  · exact c.updates_insert record
  · exact hc.updates_erase? herase

theorem Updates.hasUniqueCodes (h : c.Updates next e removed) (hc : c.HasUniqueCodes) :
    next.HasUniqueCodes := by
  intro collection
  rw [← map_code_records]
  have hnodup := hc.nodup_records collection
  cases h with
  | @replaced record old before after hcode hold hnext hothers =>
    by_cases hcollection : collection = record.collection
    · subst hcollection
      rw [hold, List.map_append, List.map_cons, hcode] at hnodup
      rw [hnext, List.map_append, List.map_cons]
      exact hnodup
    · rw [hothers _ hcollection]
      exact hnodup
  | @added record hnew hnext hothers =>
    by_cases hcollection : collection = record.collection
    · subst hcollection
      rw [hnext, ((List.perm_append_singleton _ _).map _).nodup_iff, List.map_cons,
        List.nodup_cons]
      refine ⟨fun hmem => ?_, hnodup⟩
      obtain ⟨other, hother, hcode⟩ := List.mem_map.1 hmem
      exact hnew other hother hcode
    · rw [hothers _ hcollection]
      exact hnodup
  | @removed list code found before after hfound hlist hnext hgone hothers =>
    by_cases hcollection : collection = list
    · subst hcollection
      rw [hlist] at hnodup
      rw [hnext]
      exact hnodup.sublist (((List.sublist_cons_self _ _).append_left _).map _)
    · rw [hothers _ hcollection]
      exact hnodup.sublist (map_filterMap_sublist (fun _ _ => Record.code_of_without) _)

end

/-! ## Lookups after an edit -/

section

variable {c next : Catalog K} {e : Edit K} {removed : Option (Record K)}

theorem record?_insert (c : Catalog K) (record : Record K) :
    (c.insert record).record? = Function.update c.record? record.key (some record) := by
  funext ⟨collection, code⟩
  rw [record?_eq]
  by_cases hcollection : collection = record.collection
  · subst hcollection
    rw [records_insert, find?_upsert]
    by_cases hcode : record.code = code
    · subst hcode
      rw [if_pos rfl]
      exact (Function.update_self record.key (some record) c.record?).symm
    · have hkey : (record.collection, code) ≠ record.key :=
        fun h => hcode (Prod.mk.inj h).2.symm
      rw [if_neg hcode, Function.update_of_ne hkey, record?_eq]
  · have hkey : (collection, code) ≠ record.key := fun h => hcollection (Prod.mk.inj h).1
    rw [records_insert_of_ne c hcollection, Function.update_of_ne hkey, record?_eq]

theorem without_of_record? {collection : Collection} {code taken : String} :
    (c.record? (collection, code)).bind (Record.without collection taken) =
      c.record? (collection, code) := by
  cases hfound : c.record? (collection, code) with
  | none => rfl
  | some record =>
    rw [record?_eq] at hfound
    have hmem := List.mem_of_find?_eq_some hfound
    exact Record.without_of_collection (collection_of_mem_records hmem)

theorem HasUniqueCodes.record?_erase? (hc : c.HasUniqueCodes) {collection : Collection}
    {code : String} {found : Record K} (h : c.erase? collection code = some (found, next)) :
    next.record? = (Edit.remove collection code).update c.record? := by
  obtain ⟨htake, hothers⟩ := records_erase? h
  funext ⟨other, key⟩
  rw [Edit.update]
  by_cases hcollection : other = collection
  · subst hcollection
    obtain ⟨before, after, hlist, hnext, rfl, -⟩ := takeOut?_eq_some_iff.1 htake
    by_cases hcode : key = found.code
    · subst hcode
      rw [Function.update_self, record?_eq, hnext, List.find?_eq_none]
      intro record hrecord
      have hnodup := hc.nodup_records other
      rw [hlist] at hnodup
      simpa using code_ne_of_nodup hnodup hrecord
    · have hkey : (other, key) ≠ (other, found.code) := fun h => hcode (Prod.mk.inj h).2
      rw [Function.update_of_ne hkey, without_of_record?, record?_eq, record?_eq, hnext, hlist,
        find?_append_cons_of_ne (Ne.symm hcode)]
  · have hkey : (other, key) ≠ (collection, code) := fun h => hcollection (Prod.mk.inj h).1
    rw [Function.update_of_ne hkey, record?_eq, record?_eq, hothers other hcollection]
    exact find?_filterMap (fun _ _ => Record.code_of_without) (hc.nodup_records other) key

/-- An edit that is done changes the lookups as it changes a finite map. -/
theorem HasUniqueCodes.record?_eq_update (hc : c.HasUniqueCodes) {role : Role}
    (h : c.edit role e = .ok (removed, next)) : next.record? = e.update c.record? := by
  rcases of_edit_eq_ok h with ⟨record, rfl, rfl, rfl⟩ | ⟨_, _, _, rfl, rfl, herase⟩
  · exact c.record?_insert record
  · exact hc.record?_erase? herase

end

end Catalog

end CertaintyFactor
