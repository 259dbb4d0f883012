import CertaintyFactor.Proofs.Catalog.Records
import CertaintyFactor.Proofs.Run

/-!
# Removals that change places

Taking a symptom or a damage out takes along entries and rules, but no symptom and no damage. So
removals of different ones find the same records whichever is made first, and since each of them
takes its first record and its references out of the lists by filters, the lists come to the same
(`Catalog.less_comm`). Rules are another matter: what their removal finds depends on what removals
before it left of them.
-/

set_option autoImplicit false

namespace CertaintyFactor

section

variable {α : Type} {code : α → String}

/-- What is taken out of a list is what is found under the code. -/
theorem takeOut?_eq (code : α → String) (key : String) (items : List α) :
    takeOut? code key items = (items.find? (code · == key)).map fun found =>
      (found, items.eraseP (code · == key)) := by
  induction items with
  | nil => rfl
  | cons a rest ih =>
    rw [takeOut?, find?_code_cons]
    by_cases hcode : code a = key
    · rw [if_pos hcode, if_pos hcode, List.eraseP_cons_of_pos (by simpa using hcode)]
      rfl
    · rw [if_neg hcode, if_neg hcode, ih, List.eraseP_cons_of_neg (by simpa using hcode),
        Option.map_map]
      rfl

theorem find?_eraseP_of_ne {key other : String} (h : other ≠ key) (items : List α) :
    (items.eraseP (code · == key)).find? (code · == other) = items.find? (code · == other) := by
  induction items with
  | nil => rfl
  | cons a rest ih =>
    by_cases hcode : code a = key
    · have hother : code a ≠ other := fun hother => h (hother.symm.trans hcode)
      rw [List.eraseP_cons_of_pos (by simpa using hcode), find?_code_cons, if_neg hother]
    · rw [List.eraseP_cons_of_neg (by simpa using hcode), find?_code_cons, find?_code_cons, ih]

/-- No item has two codes. -/
theorem eraseP_code_comm (code : α → String) {key other : String} (h : other ≠ key)
    (items : List α) :
    (items.eraseP (code · == key)).eraseP (code · == other) =
      (items.eraseP (code · == other)).eraseP (code · == key) := by
  apply List.eraseP_comm
  intro a _
  by_cases hcode : code a = key
  · right
    rw [hcode]
    simpa using h.symm
  · left
    simpa using hcode

end

section

variable {K : Type}

/-! ## Catalogs less a record -/

namespace Catalog

/-- The catalog less the first record of a code and what refers to it. -/
def less (c : Catalog K) : Collection × String → Catalog K
  | (.symptoms, code) =>
    { c with symptoms := c.symptoms.eraseP (·.id == code) }.forgetSymptom code
  | (.damages, code) => { c with damages := c.damages.eraseP (·.id == code) }.forgetDamage code
  | (.rules, code) => { c with rules := c.rules.eraseP (·.id == code) }

/-- A removal takes out what is found under the code. -/
theorem erase?_eq (c : Catalog K) (collection : Collection) (code : String) :
    c.erase? collection code =
      (c.record? (collection, code)).map fun found => (found, c.less (collection, code)) := by
  cases collection <;> rw [erase?, takeOut?_eq, record?, Option.map_map, Option.map_map] <;> rfl

variable {a b : Collection × String}

/-- What is found of a symptom or a damage does not depend on what else was taken out. -/
theorem record?_less (c : Catalog K) (hb : b.1 ≠ .rules) (hne : a ≠ b) :
    (c.less a).record? b = c.record? b := by
  obtain ⟨list, key⟩ := a
  obtain ⟨collection, code⟩ := b
  cases collection with
  | rules => exact absurd rfl hb
  | symptoms =>
    cases list with
    | symptoms =>
      have hcode : code ≠ key := fun hcode => hne (by rw [hcode])
      exact congrArg (Option.map _) (find?_eraseP_of_ne hcode c.symptoms)
    | damages => rfl
    | rules => rfl
  | damages =>
    cases list with
    | symptoms => rfl
    | damages =>
      have hcode : code ≠ key := fun hcode => hne (by rw [hcode])
      exact congrArg (Option.map _) (find?_eraseP_of_ne hcode c.damages)
    | rules => rfl

theorem forgetSymptom_comm (c : Catalog K) (code other : String) :
    (c.forgetSymptom code).forgetSymptom other = (c.forgetSymptom other).forgetSymptom code := by
  simp only [forgetSymptom, List.map_map, Function.comp_def, List.filter_filter, Bool.and_comm]

theorem forgetDamage_comm (c : Catalog K) (code other : String) :
    (c.forgetDamage code).forgetDamage other = (c.forgetDamage other).forgetDamage code := by
  simp only [forgetDamage, List.filter_filter, Bool.and_comm]

/-- A rule leads to the same damage with all its entries and with some of them. -/
theorem forgetDamage_forgetSymptom (c : Catalog K) (code other : String) :
    (c.forgetSymptom code).forgetDamage other = (c.forgetDamage other).forgetSymptom code := by
  simp only [forgetDamage, forgetSymptom, List.filter_map, Function.comp_def]

theorem less_comm (c : Catalog K) (ha : a.1 ≠ .rules) (hb : b.1 ≠ .rules) (hne : a ≠ b) :
    (c.less a).less b = (c.less b).less a := by
  obtain ⟨list, key⟩ := a
  obtain ⟨collection, code⟩ := b
  -- A list of records and the references to it are changed apart from each other.
  cases list with
  | rules => exact absurd rfl ha
  | symptoms =>
    cases collection with
    | rules => exact absurd rfl hb
    | symptoms =>
      have hcode : code ≠ key := fun hcode => hne (by rw [hcode])
      have herase := eraseP_code_comm Symptom.id hcode c.symptoms
      have hforget := forgetSymptom_comm
        { c with symptoms := (c.symptoms.eraseP (·.id == key)).eraseP (·.id == code) } key code
      refine hforget.trans ?_
      rw [herase]
      rfl
    | damages =>
      exact forgetDamage_forgetSymptom { c with
        symptoms := c.symptoms.eraseP (·.id == key)
        damages := c.damages.eraseP (·.id == code) } key code
  | damages =>
    cases collection with
    | rules => exact absurd rfl hb
    | symptoms =>
      exact (forgetDamage_forgetSymptom { c with
        symptoms := c.symptoms.eraseP (·.id == code)
        damages := c.damages.eraseP (·.id == key) } code key).symm
    | damages =>
      have hcode : code ≠ key := fun hcode => hne (by rw [hcode])
      have herase := eraseP_code_comm Damage.id hcode c.damages
      have hforget := forgetDamage_comm
        { c with damages := (c.damages.eraseP (·.id == key)).eraseP (·.id == code) } key code
      refine hforget.trans ?_
      rw [herase]
      rfl

end Catalog

/-! ## Removals from a store -/

namespace CatalogStore

/-- Takes a record out of a store, as an expert does. -/
def remove (s : CatalogStore K) (key : Collection × String) :
    Except Catalog.Error (Option (Record K)) × CatalogStore K :=
  s.edit .expert (.remove key.1 key.2)

/-- A removal takes a record out if there is one. -/
theorem remove_eq (s : CatalogStore K) (key : Collection × String) :
    s.remove key =
      match s.catalog.record? key with
      | some found => (.ok (some found), { s with
          catalog := s.catalog.less key
          revision := s.revision + 1
          cached := none })
      | none => (.error (.notFound key.1 key.2), s) := by
  have hedit : s.catalog.edit .expert (.remove key.1 key.2) =
      s.catalog.apply (.remove key.1 key.2) := rfl
  rw [remove, edit, hedit, Catalog.apply, Catalog.erase?_eq]
  cases s.catalog.record? key <;> rfl

theorem commutes_remove {a b : Collection × String} (ha : a.1 ≠ .rules) (hb : b.1 ≠ .rules)
    (hne : a ≠ b) : Commutes (remove (K := K)) a b := by
  have hanswer (s : CatalogStore K) {key other : Collection × String} (hother : other.1 ≠ .rules)
      (hkey : key ≠ other) : ((s.remove key).2.remove other).1 = (s.remove other).1 := by
    have hfound := s.catalog.record?_less hother hkey
    rw [remove_eq s key]
    cases s.catalog.record? key with
    | none => rfl
    | some found =>
      rw [remove_eq, remove_eq, hfound]
      cases s.catalog.record? other <;> rfl
  refine ⟨fun s => hanswer s hb hne, fun s => hanswer s ha hne.symm, fun s => ?_⟩
  have hfoundA := s.catalog.record?_less ha hne.symm
  have hfoundB := s.catalog.record?_less hb hne
  have hless := s.catalog.less_comm ha hb hne
  rw [remove_eq s a, remove_eq s b]
  cases hrecordA : s.catalog.record? a with
  | none =>
    cases hrecordB : s.catalog.record? b with
    | none => simp [remove_eq, hrecordA, hrecordB]
    | some found => simp [remove_eq, hrecordA, hrecordB, hfoundA]
  | some found =>
    cases hrecordB : s.catalog.record? b with
    | none => simp [remove_eq, hrecordA, hrecordB, hfoundB]
    | some other => simp [remove_eq, hrecordA, hrecordB, hfoundA, hfoundB, hless]

/-- Removals of different symptoms and damages can be made in any order. -/
theorem runSteps_remove_perm {keys others : List (Collection × String)} (hperm : keys.Perm others)
    (hkeys : keys.Nodup) (hlists : ∀ key ∈ keys, key.1 ≠ .rules) (s : CatalogStore K) :
    (keys.zip (runSteps remove s keys).1).Perm (others.zip (runSteps remove s others).1) ∧
      (runSteps remove s keys).2 = (runSteps remove s others).2 := by
  apply runSteps_perm hperm
  apply hkeys.imp_of_mem
  intro a b ha hb hne
  exact commutes_remove (hlists a ha) (hlists b hb) hne

variable [Confidence K]

/-- Two removals of different symptoms or damages are answered the same in either order, whether or
not there is a record of the code, and lead to the same store. Where both take a record out, it is
the one that was found under the code before either of them, the store has counted both, and its
snapshot is that of the catalog they leave. -/
theorem removals_commute (s : CatalogStore K) {a b : Collection × String} (ha : a.1 ≠ .rules)
    (hb : b.1 ≠ .rules) (hne : a ≠ b) :
    ∃ x y last, runSteps remove s [a, b] = ([x, y], last) ∧
      runSteps remove s [b, a] = ([y, x], last) ∧
      ∀ found other, x = .ok found → y = .ok other →
        found = s.catalog.record? a ∧ other = s.catalog.record? b ∧
        last.revision = s.revision + 2 ∧
        last.snapshot.1.snapshot = last.catalog.snapshot (s.revision + 2) := by
  have h := commutes_remove (K := K) ha hb hne
  refine ⟨(s.remove a).1, (s.remove b).1, ((s.remove a).2.remove b).2, ?_, ?_, ?_⟩
  · simp only [runSteps, h.second]
  · simp only [runSteps, h.first, h.state]
  · intro found other hx hy
    have hfound := s.catalog.record?_less hb hne
    rw [remove_eq] at hx hy
    cases hrecordA : s.catalog.record? a with
    | none =>
      rw [hrecordA] at hx
      cases hx
    | some first =>
      cases hrecordB : s.catalog.record? b with
      | none =>
        rw [hrecordB] at hy
        cases hy
      | some second =>
        rw [hrecordA] at hx
        rw [hrecordB] at hy
        refine ⟨(Except.ok.inj hx).symm, (Except.ok.inj hy).symm, ?_, ?_⟩
        · simp [remove_eq, hrecordA, hrecordB, hfound]
        · simp [remove_eq, hrecordA, hrecordB, hfound, snapshot]

end CatalogStore

end

namespace CatalogStore

/-- A catalog that lists a symptom twice, with rules that name it beside another one. -/
def overlappingCatalog : Catalog Binary64 where
  symptoms := [⟨"G01", "Engine hard to start", ""⟩, ⟨"G02", "Black exhaust smoke", ""⟩,
    ⟨"G01", "Engine dies at idle", ""⟩]
  damages := [⟨"K01", "Fouled spark plug", "", ""⟩, ⟨"K02", "Rich fuel mixture", "", ""⟩]
  rules := [⟨"R1", "K01", [⟨"G01", 0.8⟩, ⟨"G02", 0.4⟩]⟩, ⟨"R2", "K02", [⟨"G02", 0.9⟩, ⟨"G01", 1⟩]⟩]

theorem removals_commute_overlapping :
    (Collection.symptoms ≠ .rules ∧ Collection.damages ≠ .rules ∧
      (Collection.symptoms, "G01") ≠ (.damages, "K01")) ∧
    ∃ last, runSteps remove (ofCatalog overlappingCatalog) [(.symptoms, "G01"), (.damages, "K01")] =
        ([.ok (some (.symptom ⟨"G01", "Engine hard to start", ""⟩)),
          .ok (some (.damage ⟨"K01", "Fouled spark plug", "", ""⟩))], last) ∧
      runSteps remove (ofCatalog overlappingCatalog) [(.damages, "K01"), (.symptoms, "G01")] =
        ([.ok (some (.damage ⟨"K01", "Fouled spark plug", "", ""⟩)),
          .ok (some (.symptom ⟨"G01", "Engine hard to start", ""⟩))], last) ∧
      last.revision = 2 ∧ last.catalog.rules = [⟨"R2", "K02", [⟨"G02", 0.9⟩]⟩] ∧
      last.snapshot.1.snapshot = last.catalog.snapshot 2 := by
  have hne : (Collection.symptoms, "G01") ≠ (.damages, "K01") := nofun
  obtain ⟨x, y, last, hab, hba, hlast⟩ :=
    removals_commute (ofCatalog overlappingCatalog) (a := (.symptoms, "G01"))
      (b := (.damages, "K01")) nofun nofun hne
  have hanswers : [x, y] = [.ok (some (.symptom ⟨"G01", "Engine hard to start", ""⟩)),
      .ok (some (.damage ⟨"K01", "Fouled spark plug", "", ""⟩))] := by
    refine (congrArg Prod.fst hab).symm.trans ?_
    decide +kernel
  obtain ⟨rfl, hrest⟩ := List.cons.inj hanswers
  obtain rfl := (List.cons.inj hrest).1
  obtain ⟨-, -, hrevision, hsnapshot⟩ := hlast _ _ rfl rfl
  have hrules : last.catalog.rules = [⟨"R2", "K02", [⟨"G02", 0.9⟩]⟩] := by
    refine (congrArg (·.2.catalog.rules) hab).symm.trans ?_
    decide +kernel
  exact ⟨⟨nofun, nofun, hne⟩, last, hab, hba, hrevision, hrules, hsnapshot⟩

/-- A rule that is taken out comes with the entries it has then. -/
example :
    (runSteps remove (ofCatalog overlappingCatalog) [(.rules, "R1"), (.symptoms, "G01")]).1.head? ≠
      (runSteps remove (ofCatalog overlappingCatalog)
        [(.symptoms, "G01"), (.rules, "R1")]).1.getLast? := by
  decide +kernel

end CatalogStore

end CertaintyFactor
