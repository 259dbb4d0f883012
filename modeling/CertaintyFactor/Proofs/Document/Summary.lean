import CertaintyFactor.Proofs.Document.Fields
import CertaintyFactor.Proofs.Traversal

/-!
# Summaries read again

A summary is read again as it was written, except that each certainty becomes what it is read as
again. It is not read at all if one of its certainties is not finite.
-/

set_option autoImplicit false

namespace CertaintyFactor

open Json (Schema Member)

/-- A list read item by item is mapped as its items are. -/
theorem mapM_option_map {α β γ : Type} (f : α → Option β) (g : β → γ) (xs : List α) :
    xs.mapM (fun x => (f x).map g) = (xs.mapM f).map (List.map g) := by
  induction xs with
  | nil => rfl
  | cons x xs ih =>
    rw [List.mapM_cons, List.mapM_cons, ih]
    cases f x with
    | none => rfl
    | some y => cases xs.mapM f <;> rfl

theorem isSome_mapM {α β : Type} (f : α → Option β) (xs : List α) :
    (xs.mapM f).isSome ↔ ∀ x ∈ xs, (f x).isSome := by
  induction xs with
  | nil => simp
  | cons x xs ih =>
    rw [List.mapM_cons, List.forall_mem_cons, ← ih]
    cases f x with
    | none => simp
    | some y => cases xs.mapM f <;> simp

theorem map_eq_self_iff {α : Type} {f : α → α} {xs : List α} :
    xs.map f = xs ↔ ∀ x ∈ xs, f x = x := by
  conv_lhs => rhs; rw [← List.map_id xs]
  exact List.map_inj_left

/-- Reading a list item by item undoes writing it so. -/
theorem mapM_ofJson?_map {α : Type} {toJson : α → Json} {ofJson? : Json → Option α}
    (h : ∀ x, ofJson? (toJson x) = some x) (xs : List α) :
    (xs.map toJson).mapM ofJson? = some xs := by
  induction xs with
  | nil => rfl
  | cons x xs ih => rw [List.map_cons, List.mapM_cons, h, ih]; rfl

namespace Summary

/-- A reported symptom as it is read again. -/
def Symptom.reread? (s : Summary.Symptom Binary64) : Option (Summary.Symptom Binary64) :=
  s.cf.reread?.map (⟨s.symptomId, ·⟩)

/-- A ranked damage as it is read again. -/
def Ranked.reread? (r : Ranked Binary64) : Option (Ranked Binary64) :=
  r.cf.reread?.map (⟨r.damageId, ·, r.percentage, r.rank⟩)

/-- A summary as it is read again. -/
def reread? (s : Summary Binary64) : Option (Summary Binary64) := do
  return ⟨s.totalSymptoms, s.totalResults, ← s.symptoms.mapM Symptom.reread?,
    ← s.results.mapM Ranked.reread?⟩

/-- Every certainty of the summary is finite. -/
structure IsFinite (s : Summary Binary64) : Prop where
  symptoms : ∀ x ∈ s.symptoms, x.cf.isFinite
  results : ∀ r ∈ s.results, r.cf.isFinite

/-- The numbers of the summary fit in the words they are kept in. -/
structure Sized (s : Summary Binary64) : Prop where
  totalSymptoms_le : s.totalSymptoms ≤ Json.Number.maxSignificand
  totalResults_le : s.totalResults ≤ Json.Number.maxSignificand
  rank_le : ∀ r ∈ s.results, r.rank ≤ Json.Number.maxSignificand
  le_percentage : ∀ r ∈ s.results, Binary64.minInt64 ≤ r.percentage
  percentage_le : ∀ r ∈ s.results, r.percentage ≤ Binary64.maxInt64

theorem isSome_reread? (s : Summary Binary64) : s.reread?.isSome ↔ s.IsFinite := by
  have hsymptoms : (s.symptoms.mapM Symptom.reread?).isSome ↔ ∀ x ∈ s.symptoms, x.cf.isFinite := by
    simp [isSome_mapM, Symptom.reread?, Binary64.isSome_reread?]
  have hresults : (s.results.mapM Ranked.reread?).isSome ↔ ∀ r ∈ s.results, r.cf.isFinite := by
    simp [isSome_mapM, Ranked.reread?, Binary64.isSome_reread?]
  have hand : s.reread?.isSome ↔ (s.symptoms.mapM Symptom.reread?).isSome ∧
      (s.results.mapM Ranked.reread?).isSome := by
    unfold reread?
    cases s.symptoms.mapM Symptom.reread? with
    | none => simp
    | some symptoms => cases s.results.mapM Ranked.reread? <;> simp
  rw [hand, hsymptoms, hresults]
  exact ⟨fun h => ⟨h.1, h.2⟩, fun h => ⟨h.symptoms, h.results⟩⟩

/-- The certainties of the symptoms and of the results. -/
def certainties (s : Summary Binary64) : List Binary64 :=
  s.symptoms.map (·.cf) ++ s.results.map (·.cf)

/-- The summary with other certainties. -/
def mapCertainties (f : Binary64 → Binary64) (s : Summary Binary64) : Summary Binary64 :=
  { s with
    symptoms := s.symptoms.map fun x => { x with cf := f x.cf }
    results := s.results.map fun r => { r with cf := f r.cf } }

theorem mapCertainties_eq_self_iff {f : Binary64 → Binary64} {s : Summary Binary64} :
    s.mapCertainties f = s ↔ ∀ x ∈ s.certainties, f x = x := by
  have hsymptom (x : Symptom Binary64) : { x with cf := f x.cf } = x ↔ f x.cf = x.cf := by
    cases x
    simp
  have hranked (r : Ranked Binary64) : { r with cf := f r.cf } = r ↔ f r.cf = r.cf := by
    cases r
    simp
  cases s
  simp only [mapCertainties, mk.injEq, true_and, map_eq_self_iff, hsymptom, hranked, certainties,
    List.forall_mem_append, List.forall_mem_map]

/-- A summary of finite certainties is read again with these as they are read again. -/
theorem reread?_eq {s : Summary Binary64} (h : s.IsFinite) :
    s.reread? = some (s.mapCertainties Binary64.reread) := by
  have hsymptoms : s.symptoms.mapM Symptom.reread? =
      some (s.symptoms.map fun x => { x with cf := x.cf.reread }) := by
    have hall : ∀ x ∈ s.symptoms, x.reread? = some { x with cf := x.cf.reread } := by
      intro x hx
      rw [Symptom.reread?, Binary64.reread?, if_pos (h.symptoms x hx)]
      rfl
    exact (mapM_congr hall).trans List.mapM_pure
  have hresults : s.results.mapM Ranked.reread? =
      some (s.results.map fun r => { r with cf := r.cf.reread }) := by
    have hall : ∀ r ∈ s.results, r.reread? = some { r with cf := r.cf.reread } := by
      intro r hr
      rw [Ranked.reread?, Binary64.reread?, if_pos (h.results r hr)]
      rfl
    exact (mapM_congr hall).trans List.mapM_pure
  rw [reread?, hsymptoms, hresults]
  rfl

theorem Symptom.readsAs_toJson (s : Summary.Symptom Binary64) (depth : Nat) :
    Symptom.schema.ReadsAs (depth + 1) s.toJson (s.reread?.map Symptom.toJson) := by
  have hobject := Schema.readsAs_object
    (.cons (Member.isOf_text depth "symptom_id" s.symptomId)
      (.cons (Member.isOf_float depth "cf" s.cf) .nil))
    (by decide) "struct SymptomConfidence"
  have hread : s.reread?.map Symptom.toJson = ([Member.text "symptom_id" s.symptomId,
      .float "cf" s.cf].mapM Member.read?).map .object := by
    unfold reread?
    cases hcf : s.cf.reread? <;> simp [Member.read?, Member.text, Member.float, hcf, toJson]
  rw [hread]
  exact hobject

theorem Ranked.readsAs_toJson {r : Ranked Binary64} (hrank : r.rank ≤ Json.Number.maxSignificand)
    (hmin : Binary64.minInt64 ≤ r.percentage) (hmax : r.percentage ≤ Binary64.maxInt64)
    (depth : Nat) :
    Ranked.schema.ReadsAs (depth + 1) r.toJson (r.reread?.map Ranked.toJson) := by
  have hobject := Schema.readsAs_object
    (.cons (Member.isOf_text depth "damage_id" r.damageId)
      (.cons (Member.isOf_float depth "cf" r.cf)
        (.cons (Member.isOf_signed depth "percentage" hmin hmax)
          (.cons (Member.isOf_count _ "rank" hrank) .nil))))
    (by decide) "struct RankedDamage"
  have hread : r.reread?.map Ranked.toJson = ([Member.text "damage_id" r.damageId,
      .float "cf" r.cf, .signed "percentage" r.percentage, .count "rank" r.rank].mapM
        Member.read?).map .object := by
    unfold reread?
    cases hcf : r.cf.reread? <;>
      simp [Member.read?, Member.text, Member.float, Member.signed, Member.count, hcf, toJson]
  rw [hread]
  exact hobject

/-- A summary of known size is read from its text as it is read again. -/
theorem readsAs_toJson {s : Summary Binary64} (h : s.Sized) (depth : Nat) :
    schema.ReadsAs (depth + 3) s.toJson (s.reread?.map toJson) := by
  have hsymptoms : (Schema.list Symptom.schema).ReadsAs (depth + 2)
      (.array (s.symptoms.map Symptom.toJson))
      (((s.symptoms.mapM Symptom.reread?).map (List.map Symptom.toJson)).map .array) := by
    rw [← mapM_option_map]
    exact Schema.readsAs_array s.symptoms (depth + 1) (fun _ _ => ⟨_, rfl⟩)
      fun x _ => x.readsAs_toJson depth
  have hresults : (Schema.list Ranked.schema).ReadsAs (depth + 2)
      (.array (s.results.map Ranked.toJson))
      (((s.results.mapM Ranked.reread?).map (List.map Ranked.toJson)).map .array) := by
    rw [← mapM_option_map]
    exact Schema.readsAs_array s.results (depth + 1) (fun _ _ => ⟨_, rfl⟩)
      fun r hr => Ranked.readsAs_toJson (h.rank_le r hr) (h.le_percentage r hr)
        (h.percentage_le r hr) depth
  have hobject := Schema.readsAs_object
    (.cons (Member.isOf_count _ "total_symptoms" h.totalSymptoms_le)
      (.cons (Member.isOf_count _ "total_results" h.totalResults_le)
        (.cons (Member.isOf_field "user_symptoms" hsymptoms)
          (.cons (Member.isOf_field "results" hresults) .nil))))
    (by decide) "struct SessionSummary"
  have hread : s.reread?.map toJson = ([Member.count "total_symptoms" s.totalSymptoms,
      .count "total_results" s.totalResults,
      ⟨"user_symptoms", .array (s.symptoms.map Symptom.toJson),
        ((s.symptoms.mapM Symptom.reread?).map (List.map Symptom.toJson)).map .array⟩,
      ⟨"results", .array (s.results.map Ranked.toJson),
        ((s.results.mapM Ranked.reread?).map (List.map Ranked.toJson)).map .array⟩].mapM
          Member.read?).map .object := by
    unfold reread?
    cases hs : s.symptoms.mapM Symptom.reread? with
    | none => simp [Member.read?, Member.count]
    | some symptoms =>
      cases hr : s.results.mapM Ranked.reread? <;> simp [Member.read?, Member.count, toJson]
  rw [hread]
  exact hobject

/-! ## The summary of a document -/

theorem Symptom.ofJson?_toJson (s : Summary.Symptom Binary64) : ofJson? s.toJson = some s :=
  rfl

theorem Ranked.ofJson?_toJson (r : Ranked Binary64) : ofJson? r.toJson = some r :=
  rfl

theorem ofJson?_toJson (s : Summary Binary64) : ofJson? s.toJson = some s := by
  have hsymptoms : (s.symptoms.map Symptom.toJson).mapM Symptom.ofJson? = some s.symptoms :=
    mapM_ofJson?_map Symptom.ofJson?_toJson s.symptoms
  have hresults : (s.results.map Ranked.toJson).mapM Ranked.ofJson? = some s.results :=
    mapM_ofJson?_map Ranked.ofJson?_toJson s.results
  simp [toJson, ofJson?, Json.count, Json.listOf?, hsymptoms, hresults]

end Summary

end CertaintyFactor
