import Mathlib.Data.List.Forall2

/-!
# Lists paired item by item

`List.Forall₂ R as bs` pairs the items of two lists. A pairing can go on from one list to the next,
and it comes apart where one of its lists does. What some items of a list give pairs up with those
items, and what paired items give pairs up again, also after a sort that cannot tell them apart.
-/

set_option autoImplicit false

namespace CertaintyFactor

section

variable {α β γ : Type}

/-- Pairings that go on from one list to the next make one pairing of the first list with the last
one. -/
theorem forall₂_comp {R : α → β → Prop} {S : β → γ → Prop} {T : α → γ → Prop}
    {as : List α} {bs : List β} {cs : List γ} (hR : List.Forall₂ R as bs)
    (hS : List.Forall₂ S bs cs) (hT : ∀ a b, ∀ c ∈ cs, R a b → S b c → T a c) :
    List.Forall₂ T as cs := by
  induction hR generalizing cs with
  | nil =>
    cases hS
    exact .nil
  | cons hab _ ih =>
    cases hS with
    | cons hbc hrest =>
      refine .cons (hT _ _ _ List.mem_cons_self hab hbc) (ih hrest fun a b c hc => ?_)
      exact hT a b c (List.mem_cons_of_mem _ hc)

theorem exists_append_of_forall₂ {R : α → β → Prop} {as as' : List α} {bs : List β}
    (h : List.Forall₂ R (as ++ as') bs) : ∃ cs cs', bs = cs ++ cs' ∧ List.Forall₂ R as cs ∧
      List.Forall₂ R as' cs' := by
  induction as generalizing bs with
  | nil => exact ⟨[], bs, rfl, .nil, h⟩
  | cons a as ih =>
    cases h with
    | @cons _ b _ _ hab hrest =>
      obtain ⟨cs, cs', rfl, hcs, hcs'⟩ := ih hrest
      exact ⟨b :: cs, cs', rfl, .cons hab hcs, hcs'⟩

theorem forall₂_filterMap {R : β → α → Prop} {f : α → Option β} {p : α → Prop} [DecidablePred p]
    (hR : ∀ a b, f a = some b → R b a) (hp : ∀ a, (f a).isSome ↔ p a) (as : List α) :
    List.Forall₂ R (as.filterMap f) (as.filter p) := by
  induction as with
  | nil => exact .nil
  | cons a as ih =>
    have ha := hp a
    cases hb : f a with
    | none =>
      rw [hb] at ha
      rw [List.filterMap_cons_none hb, List.filter_cons_of_neg (by simp [← ha])]
      exact ih
    | some b =>
      rw [hb] at ha
      rw [List.filterMap_cons_some hb, List.filter_cons_of_pos (by simp [← ha])]
      exact .cons (hR a b hb) ih

theorem forall_mem_of_forall₂ {R : α → β → Prop} {p : α → Prop} {q : β → Prop} {as : List α}
    {bs : List β} (h : List.Forall₂ R as bs) (hpq : ∀ a b, R a b → p a → q b)
    (hp : ∀ a ∈ as, p a) : ∀ b ∈ bs, q b := by
  induction h with
  | nil => exact nofun
  | cons hab _ ih =>
    obtain ⟨ha, has⟩ := List.forall_mem_cons.1 hp
    exact List.forall_mem_cons.2 ⟨hpq _ _ hab ha, ih has⟩

theorem countP_eq_of_forall₂ {R : α → β → Prop} {p : α → Bool} {q : β → Bool} {as : List α}
    {bs : List β} (h : List.Forall₂ R as bs) (hpq : ∀ a b, R a b → p a = q b) :
    as.countP p = bs.countP q := by
  induction h with
  | nil => rfl
  | cons hab _ ih => rw [List.countP_cons, List.countP_cons, ih, hpq _ _ hab]

theorem forall₂_mapIdx {δ : Type} {R : α → β → Prop} {S : γ → δ → Prop} {f : Nat → α → γ}
    {g : Nat → β → δ} {as : List α} {bs : List β} (h : List.Forall₂ R as bs)
    (hfg : ∀ i a b, R a b → S (f i a) (g i b)) : List.Forall₂ S (as.mapIdx f) (bs.mapIdx g) := by
  induction h generalizing f g with
  | nil => exact .nil
  | cons hab _ ih =>
    rw [List.mapIdx_cons, List.mapIdx_cons]
    exact .cons (hfg 0 _ _ hab) (ih fun i => hfg (i + 1))

/-- Two sorts that decide alike on paired items leave them paired. -/
theorem forall₂_mergeSort {R : α → β → Prop} {le : α → α → Bool} {le' : β → β → Bool}
    {as : List α} {bs : List β} (h : List.Forall₂ R as bs)
    (hle : ∀ a b a' b', R a b → R a' b' → le a a' = le' b b') :
    List.Forall₂ R (as.mergeSort le) (bs.mergeSort le') := by
  obtain ⟨hlength, hzip⟩ := List.forall₂_iff_zip.1 h
  -- Both sorts are the one sort of the pairs, by what it says of their first items.
  have hfst : ((as.zip bs).mergeSort fun p q => le p.1 q.1).map Prod.fst = as.mergeSort le := by
    rw [List.map_mergeSort (s := le) fun _ _ _ _ => rfl, List.map_fst_zip (Nat.le_of_eq hlength)]
  have hsnd : ((as.zip bs).mergeSort fun p q => le p.1 q.1).map Prod.snd = bs.mergeSort le' := by
    rw [List.map_mergeSort (s := le') fun p hp q hq => hle _ _ _ _ (hzip hp) (hzip hq),
      List.map_snd_zip (Nat.le_of_eq hlength.symm)]
  rw [← hfst, ← hsnd, List.forall₂_map_left_iff, List.forall₂_map_right_iff, List.forall₂_same]
  intro p hp
  exact hzip (List.mem_mergeSort.1 hp)

/-- The items at a place are paired, or there are none. -/
theorem rel_getElem?_of_forall₂ {R : α → β → Prop} {as : List α} {bs : List β}
    (h : List.Forall₂ R as bs) (i : Nat) : Option.Rel R as[i]? bs[i]? := by
  induction h generalizing i with
  | nil => exact .none
  | cons hab _ ih =>
    cases i with
    | zero => exact .some hab
    | succ i => exact ih i

theorem exists_getElem?_of_forall₂ {R : α → β → Prop} {as : List α} {bs : List β}
    (h : List.Forall₂ R as bs) {i : Nat} {a : α} (ha : as[i]? = some a) :
    ∃ b, bs[i]? = some b ∧ R a b := by
  have hpaired := rel_getElem?_of_forall₂ h i
  rw [ha] at hpaired
  cases hb : bs[i]? with
  | none =>
    rw [hb] at hpaired
    cases hpaired
  | some b =>
    rw [hb] at hpaired
    cases hpaired with
    | some hab => exact ⟨b, rfl, hab⟩

theorem forall₂_set {R : α → β → Prop} {as : List α} {bs : List β} (h : List.Forall₂ R as bs)
    {a : α} {b : β} (hab : R a b) (i : Nat) : List.Forall₂ R (as.set i a) (bs.set i b) := by
  induction h generalizing i with
  | nil => exact .nil
  | cons hfirst hrest ih =>
    cases i with
    | zero => exact .cons hab hrest
    | succ i => exact .cons hfirst (ih i)

theorem forall₂_toList {R : α → β → Prop} {a : Option α} {b : Option β} (h : Option.Rel R a b) :
    List.Forall₂ R a.toList b.toList := by
  cases h with
  | none => exact .nil
  | some hab => exact .cons hab .nil

theorem eq_of_forall₂ {R : α → α → Prop} {as bs : List α} (h : List.Forall₂ R as bs)
    (heq : ∀ a ∈ as, ∀ b, R a b → b = a) : bs = as := by
  induction h with
  | nil => rfl
  | cons hab _ ih =>
    rw [heq _ List.mem_cons_self _ hab, ih fun a ha => heq a (List.mem_cons_of_mem _ ha)]

end

end CertaintyFactor
