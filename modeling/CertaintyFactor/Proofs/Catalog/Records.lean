import CertaintyFactor.Proofs.Catalog.Integrity
import CertaintyFactor.Proofs.Catalog.Store

/-!
# Records in their lists

What putting a record in and taking one out do to a list, and so to the lists of a catalog. These
are looked at as lists of `Record`s, each found under its key, so that what holds of all three of
them is stated once. A record that is taken out takes others along that refer to it, or parts of
them: `Record.without` says what is left of a record then.
-/

set_option autoImplicit false

namespace CertaintyFactor

/-! ## Lists of records -/

section

variable {α β : Type} {code : α → String}

/-- A record takes the place of the first one with its code, or comes at the end. -/
theorem upsert_cases (code : α → String) (record : α) (items : List α) :
    (∃ before old after, items = before ++ old :: after ∧ code old = code record ∧
      upsert code record items = before ++ record :: after) ∨
    (∀ a ∈ items, code a ≠ code record) ∧ upsert code record items = items ++ [record] := by
  induction items with
  | nil => exact .inr ⟨nofun, rfl⟩
  | cons a rest ih =>
    rw [upsert]
    by_cases hcode : code a = code record
    · rw [if_pos hcode]
      exact .inl ⟨[], a, rest, rfl, hcode, rfl⟩
    · rw [if_neg hcode]
      rcases ih with ⟨before, old, after, rfl, hold, hupsert⟩ | ⟨hnew, hupsert⟩
      · rw [hupsert]
        exact .inl ⟨a :: before, old, after, rfl, hold, rfl⟩
      · rw [hupsert]
        exact .inr ⟨List.forall_mem_cons.2 ⟨hcode, hnew⟩, rfl⟩

theorem takeOut?_append_cons {key : String} {before : List α}
    (hbefore : ∀ b ∈ before, code b ≠ key) {found : α} (hfound : code found = key)
    (after : List α) :
    takeOut? code key (before ++ found :: after) = some (found, before ++ after) := by
  induction before with
  | nil => exact if_pos hfound
  | cons b before ih =>
    obtain ⟨hb, hbefore⟩ := List.forall_mem_cons.1 hbefore
    rw [List.cons_append, takeOut?, if_neg hb, ih hbefore]
    rfl

/-- What is taken out is the first item of the code. -/
theorem takeOut?_eq_some_iff {key : String} {items rest : List α} {found : α} :
    takeOut? code key items = some (found, rest) ↔
      ∃ before after, items = before ++ found :: after ∧ rest = before ++ after ∧
        code found = key ∧ ∀ b ∈ before, code b ≠ key := by
  constructor
  · intro h
    induction items generalizing rest with
    | nil => cases h
    | cons a items ih =>
      rw [takeOut?] at h
      by_cases hcode : code a = key
      · rw [if_pos hcode] at h
        cases h
        exact ⟨[], items, rfl, rfl, hcode, List.forall_mem_nil _⟩
      · rw [if_neg hcode] at h
        obtain ⟨⟨b, left⟩, htake, hpair⟩ := Option.map_eq_some_iff.1 h
        cases hpair
        obtain ⟨before, after, rfl, rfl, hfound, hbefore⟩ := ih htake
        exact ⟨a :: before, after, rfl, rfl, hfound, List.forall_mem_cons.2 ⟨hcode, hbefore⟩⟩
  · rintro ⟨before, after, rfl, rfl, hfound, hbefore⟩
    exact takeOut?_append_cons hbefore hfound after

theorem mem_of_mem_upsert {a record : α} {items : List α} (h : a ∈ upsert code record items) :
    a = record ∨ a ∈ items := by
  rcases upsert_cases code record items with ⟨before, old, after, rfl, -, hupsert⟩ | ⟨-, hupsert⟩
  · rw [hupsert, List.mem_append, List.mem_cons] at h
    rcases h with hbefore | rfl | hafter
    · exact .inr (List.mem_append_left _ hbefore)
    · exact .inl rfl
    · exact .inr (List.mem_append_right _ (List.mem_cons_of_mem _ hafter))
  · rw [hupsert, List.mem_append, List.mem_singleton] at h
    exact h.symm

/-- Putting a record in removes no code. -/
theorem mem_map_upsert {key : String} {items : List α} (h : key ∈ items.map code) (record : α) :
    key ∈ (upsert code record items).map code := by
  rcases upsert_cases code record items with
    ⟨before, old, after, rfl, hcode, hupsert⟩ | ⟨-, hupsert⟩
  · rw [List.map_append, List.map_cons, hcode] at h
    rwa [hupsert, List.map_append, List.map_cons]
  · rw [hupsert, List.map_append]
    exact List.mem_append_left _ h

theorem sublist_of_takeOut? {key : String} {items rest : List α} {found : α}
    (h : takeOut? code key items = some (found, rest)) : rest.Sublist items := by
  obtain ⟨before, after, rfl, rfl, -, -⟩ := takeOut?_eq_some_iff.1 h
  exact List.Sublist.append_left (List.sublist_cons_self found after) before

/-- Taking a record out removes no other code. -/
theorem mem_map_of_takeOut? {key other : String} {items rest : List α} {found : α}
    (h : takeOut? code key items = some (found, rest)) (hother : other ∈ items.map code)
    (hne : other ≠ key) : other ∈ rest.map code := by
  obtain ⟨before, after, rfl, rfl, rfl, -⟩ := takeOut?_eq_some_iff.1 h
  rw [List.map_append, List.map_cons, List.mem_append, List.mem_cons] at hother
  rw [List.map_append, List.mem_append]
  rcases hother with hbefore | hfound | hafter
  · exact .inl hbefore
  · exact absurd hfound hne
  · exact .inr hafter

theorem map_upsert (f : α → β) (code' : β → String) (hf : ∀ a, code' (f a) = code a) (record : α)
    (items : List α) :
    (upsert code record items).map f = upsert code' (f record) (items.map f) := by
  induction items with
  | nil => rfl
  | cons a rest ih =>
    rw [upsert, List.map_cons, upsert, hf, hf]
    by_cases hcode : code a = code record
    · rw [if_pos hcode, if_pos hcode, List.map_cons]
    · rw [if_neg hcode, if_neg hcode, List.map_cons, ih]

theorem takeOut?_map (f : α → β) (code' : β → String) (hf : ∀ a, code' (f a) = code a)
    {key : String} {items rest : List α} {found : α}
    (h : takeOut? code key items = some (found, rest)) :
    takeOut? code' key (items.map f) = some (f found, rest.map f) := by
  obtain ⟨before, after, rfl, rfl, hfound, hbefore⟩ := takeOut?_eq_some_iff.1 h
  rw [List.map_append, List.map_append, List.map_cons]
  refine takeOut?_append_cons (List.forall_mem_map.2 fun b hb => ?_) ((hf found).trans hfound) _
  rw [hf]
  exact hbefore b hb

/-- Dropping and changing items keeps the order of the codes of those that stay. -/
theorem map_filterMap_sublist {w : α → Option α} (hw : ∀ a b, w a = some b → code b = code a)
    (items : List α) : ((items.filterMap w).map code).Sublist (items.map code) := by
  induction items with
  | nil => exact .slnil
  | cons a rest ih =>
    rw [List.filterMap_cons, List.map_cons]
    cases hleft : w a with
    | none => exact ih.cons _
    | some b =>
      rw [List.map_cons, hw a b hleft]
      exact ih.cons_cons _

/-- What stands before and after an item in a list without repeated codes has other codes. -/
theorem code_ne_of_nodup {before after : List α} {a : α}
    (h : ((before ++ a :: after).map code).Nodup) {b : α} (hb : b ∈ before ++ after) :
    code b ≠ code a := by
  rw [(List.perm_middle.map code).nodup_iff, List.map_cons, List.nodup_cons] at h
  exact fun hcode => h.1 (List.mem_map.2 ⟨b, hb, hcode⟩)

/-! ## Lookups in them -/

theorem find?_code_cons (code : α → String) (a : α) (items : List α) (key : String) :
    (a :: items).find? (code · == key) =
      if code a = key then some a else items.find? (code · == key) := by
  by_cases hcode : code a = key
  · rw [if_pos hcode, List.find?_cons_of_pos (by simpa using hcode)]
  · rw [if_neg hcode, List.find?_cons_of_neg (by simpa using hcode)]

/-- A list with a record put in has it under its code, and under the other codes what it had. -/
theorem find?_upsert (code : α → String) (record : α) (items : List α) (key : String) :
    (upsert code record items).find? (code · == key) =
      if code record = key then some record else items.find? (code · == key) := by
  induction items with
  | nil => exact find?_code_cons code record [] key
  | cons a rest ih =>
    rw [upsert, find?_code_cons code a]
    by_cases hcode : code a = code record
    · rw [if_pos hcode, find?_code_cons, hcode]
      by_cases hkey : code record = key
      · rw [if_pos hkey, if_pos hkey]
      · rw [if_neg hkey, if_neg hkey, if_neg hkey]
    · rw [if_neg hcode, find?_code_cons, ih]
      by_cases hkey : code record = key
      · rw [if_neg (hkey ▸ hcode), if_pos hkey, if_pos hkey]
      · rw [if_neg hkey, if_neg hkey]

theorem find?_of_takeOut? {key : String} {items rest : List α} {found : α}
    (h : takeOut? code key items = some (found, rest)) :
    items.find? (code · == key) = some found := by
  obtain ⟨before, after, rfl, rfl, hfound, hbefore⟩ := takeOut?_eq_some_iff.1 h
  refine List.find?_eq_some_iff_append.2 ⟨beq_iff_eq.2 hfound, before, after, rfl, ?_⟩
  intro b hb
  simpa using hbefore b hb

/-- An item of another code makes no difference. -/
theorem find?_append_cons_of_ne {before after : List α} {a : α} {key : String}
    (h : code a ≠ key) :
    (before ++ a :: after).find? (code · == key) = (before ++ after).find? (code · == key) := by
  rw [List.find?_append, List.find?_append, find?_code_cons, if_neg h]

/-- What is found of a code among what is left of the items is what is left of the item found. -/
theorem find?_filterMap {w : α → Option α} (hw : ∀ a b, w a = some b → code b = code a)
    {items : List α} (h : (items.map code).Nodup) (key : String) :
    (items.filterMap w).find? (code · == key) = (items.find? (code · == key)).bind w := by
  induction items with
  | nil => rfl
  | cons a rest ih =>
    rw [List.map_cons, List.nodup_cons] at h
    rw [List.filterMap_cons, find?_code_cons]
    by_cases hcode : code a = key
    · rw [if_pos hcode, Option.bind_some]
      cases hleft : w a with
      | none =>
        -- No other item has the code.
        rw [ih h.2, List.find?_eq_none.2, Option.bind_none]
        intro b hb hbcode
        exact h.1 (List.mem_map.2 ⟨b, hb, (beq_iff_eq.1 hbcode).trans hcode.symm⟩)
      | some b =>
        dsimp only
        rw [find?_code_cons, if_pos ((hw a b hleft).trans hcode)]
    · rw [if_neg hcode]
      cases hleft : w a with
      | none => exact ih h.2
      | some b =>
        have hne : code b ≠ key := fun hb => hcode ((hw a b hleft).symm.trans hb)
        dsimp only
        rw [find?_code_cons, if_neg hne, ih h.2]

end

/-! ## What goes along with a record -/

section

variable {K : Type}

/-- Where a record is found: its list and its code. -/
def Record.key (record : Record K) : Collection × String :=
  (record.collection, record.code)

/-- Where an edit puts a record in or takes one out. -/
def Edit.key : Edit K → Collection × String
  | upsert record => record.key
  | remove collection code => (collection, code)

/-- A record less the entries that name some symptoms, if it is a rule. -/
def Record.lessEntries (codes : List String) : Record K → Record K
  | rule r => rule { r with entries := r.entries.filter (·.symptomId ∉ codes) }
  | record => record

/-- The damage that a record leads to, if it is a rule. -/
def Record.damageId? : Record K → Option String
  | rule r => some r.damageId
  | _ => none

/-- What is left of a record of another list when one is taken out: a symptom takes along the
entries that name it, a damage the rules that lead to it. -/
def Record.without (collection : Collection) (code : String) (record : Record K) :
    Option (Record K) :=
  match collection with
  | .symptoms => some (record.lessEntries [code])
  | .damages => Option.guard (·.damageId? ≠ some code) record
  | .rules => some record

namespace Record

variable {collection : Collection} {code : String} {record left : Record K}

theorem code_lessEntries (codes : List String) : (record.lessEntries codes).code = record.code := by
  cases record <;> rfl

/-- Nothing goes along with a record of the same list. -/
theorem without_of_collection (h : record.collection = collection) :
    record.without collection code = some record := by
  subst h
  cases record with
  | symptom record => rfl
  | damage record => simp [without, collection, damageId?]
  | rule r => rfl

/-- What is left of a record is the record, but for entries. -/
theorem eq_of_without (h : record.without collection code = some left) :
    left = if collection = .symptoms then record.lessEntries [code] else record := by
  cases collection with
  | symptoms => exact (Option.some.inj h).symm
  | damages =>
    rw [without, Option.guard_eq_some_iff] at h
    exact h.1.symm
  | rules => exact (Option.some.inj h).symm

theorem code_of_without (h : record.without collection code = some left) :
    left.code = record.code := by
  rw [eq_of_without h]
  split
  · exact code_lessEntries [code]
  · rfl

end Record

namespace Catalog

/-- The record that is found under a code in one of the lists. -/
def record? (c : Catalog K) : Collection × String → Option (Record K)
  | (.symptoms, code) => (Symptom.withCode? c.symptoms code).map .symptom
  | (.damages, code) => (Damage.withCode? c.damages code).map .damage
  | (.rules, code) => (c.rules.find? (·.id == code)).map .rule

theorem record?_eq (c : Catalog K) (collection : Collection) (code : String) :
    c.record? (collection, code) = (c.records collection).find? (·.code == code) := by
  cases collection <;> rw [record?, records, List.find?_map] <;> rfl

theorem map_code_records (c : Catalog K) (collection : Collection) :
    (c.records collection).map Record.code = c.codes collection := by
  cases collection <;> rw [records, codes, List.map_map] <;> rfl

theorem collection_of_mem_records {c : Catalog K} {collection : Collection} {record : Record K}
    (h : record ∈ c.records collection) : record.collection = collection := by
  cases collection <;> obtain ⟨_, -, rfl⟩ := List.mem_map.1 h <;> rfl

/-! ## Records put in and taken out -/

theorem records_insert (c : Catalog K) (record : Record K) :
    (c.insert record).records record.collection =
      upsert Record.code record (c.records record.collection) := by
  cases record with
  | symptom record => exact map_upsert Record.symptom Record.code (fun _ => rfl) record c.symptoms
  | damage record => exact map_upsert Record.damage Record.code (fun _ => rfl) record c.damages
  | rule record => exact map_upsert Record.rule Record.code (fun _ => rfl) record c.rules

theorem records_insert_of_ne (c : Catalog K) {record : Record K} {collection : Collection}
    (h : collection ≠ record.collection) :
    (c.insert record).records collection = c.records collection := by
  cases record with
  | symptom record =>
    cases collection with
    | symptoms => exact absurd rfl h
    | damages => rfl
    | rules => rfl
  | damage record =>
    cases collection with
    | symptoms => rfl
    | damages => exact absurd rfl h
    | rules => rfl
  | rule record =>
    cases collection with
    | symptoms => rfl
    | damages => rfl
    | rules => exact absurd rfl h

theorem records_forgetSymptom (c : Catalog K) (code : String) (collection : Collection) :
    (c.forgetSymptom code).records collection =
      (c.records collection).map (·.lessEntries [code]) := by
  cases collection <;> simp [records, forgetSymptom, Record.lessEntries]

theorem records_forgetDamage (c : Catalog K) (code : String) (collection : Collection) :
    (c.forgetDamage code).records collection =
      (c.records collection).filter (·.damageId? ≠ some code) := by
  cases collection <;>
    simp [records, forgetDamage, Record.damageId?, List.filter_map, Function.comp_def]

/-- Taking a record out takes the first one of its code, and leaves the other lists but for what
goes along. -/
theorem records_erase? {c next : Catalog K} {collection : Collection} {code : String}
    {found : Record K} (h : c.erase? collection code = some (found, next)) :
    takeOut? Record.code code (c.records collection) = some (found, next.records collection) ∧
      ∀ other, other ≠ collection → next.records other =
        (c.records other).filterMap (Record.without collection code) := by
  cases collection with
  | symptoms =>
    obtain ⟨⟨symptom, rest⟩, htake, hpair⟩ := Option.map_eq_some_iff.1 h
    cases hpair
    refine ⟨takeOut?_map Record.symptom Record.code (fun _ => rfl) htake, fun other hother => ?_⟩
    rw [records_forgetSymptom]
    cases other with
    | symptoms => exact absurd rfl hother
    | damages => exact (congrFun List.filterMap_eq_map _).symm
    | rules => exact (congrFun List.filterMap_eq_map _).symm
  | damages =>
    obtain ⟨⟨damage, rest⟩, htake, hpair⟩ := Option.map_eq_some_iff.1 h
    cases hpair
    refine ⟨takeOut?_map Record.damage Record.code (fun _ => rfl) htake, fun other hother => ?_⟩
    rw [records_forgetDamage]
    cases other with
    | symptoms => exact (congrFun List.filterMap_eq_filter _).symm
    | damages => exact absurd rfl hother
    | rules => exact (congrFun List.filterMap_eq_filter _).symm
  | rules =>
    obtain ⟨⟨rule, rest⟩, htake, hpair⟩ := Option.map_eq_some_iff.1 h
    cases hpair
    refine ⟨takeOut?_map Record.rule Record.code (fun _ => rfl) htake, fun other hother => ?_⟩
    cases other with
    | symptoms => exact List.filterMap_some.symm
    | damages => exact List.filterMap_some.symm
    | rules => exact absurd rfl hother

end Catalog

end

end CertaintyFactor
