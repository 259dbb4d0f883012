import Mathlib.Data.List.Basic

/-!
# Runs of requests

A machine answers one request after the other, each in the state that the one before left. What a
single step keeps, a whole run keeps, and so does what it keeps of all that was asked before; a
step-by-step likeness of two machines makes their answers alike; requests that leave the state as it
is, or as far as the others can tell, can be left out; and requests that can change places two by
two can be made in any order.
-/

set_option autoImplicit false

namespace CertaintyFactor

section

variable {σ τ ι α β : Type}

/-- The answers to a row of requests, and the state after them. -/
def runSteps (step : σ → ι → α × σ) (s : σ) : List ι → List α × σ
  | [] => ([], s)
  | i :: rest =>
    ((step s i).1 :: (runSteps step (step s i).2 rest).1, (runSteps step (step s i).2 rest).2)

variable {step : σ → ι → α × σ}

theorem length_runSteps (step : σ → ι → α × σ) (s : σ) (is : List ι) :
    (runSteps step s is).1.length = is.length := by
  induction is generalizing s with
  | nil => rfl
  | cons i is ih => rw [runSteps, List.length_cons, List.length_cons, ih]

/-- Machines in related states that answer alike and stay related answer alike all the way. -/
theorem runSteps_simulates {other : τ → ι → β × τ} {R : σ → τ → Prop} (f : α → β)
    (hstep : ∀ s t i, R s t → f (step s i).1 = (other t i).1 ∧ R (step s i).2 (other t i).2)
    {s : σ} {t : τ} (h : R s t) (is : List ι) :
    (runSteps step s is).1.map f = (runSteps other t is).1 ∧
      R (runSteps step s is).2 (runSteps other t is).2 := by
  induction is generalizing s t with
  | nil => exact ⟨rfl, h⟩
  | cons i is ih =>
    obtain ⟨hanswer, hnext⟩ := hstep s t i h
    obtain ⟨hanswers, hlast⟩ := ih hnext
    refine ⟨?_, hlast⟩
    rw [runSteps, runSteps, List.map_cons, hanswer, hanswers]

/-- Where each state fits all that was asked before, and each answer is the one expected after it,
this is so all the way. -/
theorem runSteps_explained {Fits : List (ι × α) → σ → Prop} {Expected : List (ι × α) → ι → α → Prop}
    (hstep : ∀ past s i, Fits past s → Expected past i (step s i).1 ∧
      Fits (past ++ [(i, (step s i).1)]) (step s i).2)
    {past : List (ι × α)} {s : σ} (h : Fits past s) (is : List ι) :
    let asked := is.zip (runSteps step s is).1
    Fits (past ++ asked) (runSteps step s is).2 ∧
      ∀ before i a after, asked = before ++ (i, a) :: after → Expected (past ++ before) i a := by
  induction is generalizing past s with
  | nil =>
    constructor
    · show Fits (past ++ []) s
      rwa [List.append_nil]
    · intro before i a after hsplit
      cases before <;> cases hsplit
  | cons i is ih =>
    obtain ⟨hexpected, hnext⟩ := hstep past s i h
    obtain ⟨hlast, hrest⟩ := ih hnext
    simp only [runSteps, List.zip_cons_cons]
    refine ⟨by simpa using hlast, fun before j b after hsplit => ?_⟩
    cases before with
    | nil =>
      obtain ⟨hfirst, -⟩ := List.cons.inj hsplit
      obtain ⟨rfl, rfl⟩ := Prod.mk.inj hfirst
      rwa [List.append_nil]
    | cons first before =>
      obtain ⟨rfl, htail⟩ := List.cons.inj hsplit
      have hlater := hrest before j b after htail
      rwa [List.append_assoc, List.singleton_append] at hlater

/-- Requests after which the others cannot tell that there were any can be left out. -/
theorem runSteps_unaffected {R : σ → σ → Prop} (kept : ι → Bool) (shown : α → β)
    (hkept : ∀ s t i, R s t → kept i = true →
      shown (step s i).1 = shown (step t i).1 ∧ R (step s i).2 (step t i).2)
    (hdropped : ∀ s t i, R s t → kept i = false → R (step s i).2 t)
    {s t : σ} (h : R s t) (is : List ι) :
    (runSteps step t (is.filter kept)).1.map shown =
      ((is.zip (runSteps step s is).1).filter fun asked => kept asked.1).map fun asked =>
        shown asked.2 := by
  induction is generalizing s t with
  | nil => rfl
  | cons i is ih =>
    simp only [runSteps, List.zip_cons_cons, List.filter_cons]
    cases hi : kept i with
    | true =>
      obtain ⟨hanswer, hnext⟩ := hkept s t i h hi
      rw [if_pos rfl, if_pos rfl, runSteps, List.map_cons, List.map_cons, ih hnext, hanswer]
    | false =>
      rw [if_neg Bool.false_ne_true, if_neg Bool.false_ne_true]
      exact ih (hdropped s t i h hi)

/-- Requests whose answers show that they left the state as it was can be left out. -/
theorem runSteps_filter (kept : α → Bool)
    (hdropped : ∀ s i, kept (step s i).1 = false → (step s i).2 = s) (s : σ) (is : List ι) :
    let rest := (is.zip (runSteps step s is).1).filter fun asked => kept asked.2
    runSteps step s (rest.map Prod.fst) = (rest.map Prod.snd, (runSteps step s is).2) := by
  induction is generalizing s with
  | nil => rfl
  | cons i is ih =>
    simp only [runSteps, List.zip_cons_cons, List.filter_cons]
    cases hkept : kept (step s i).1 with
    | true =>
      rw [if_pos rfl, List.map_cons, List.map_cons, runSteps, ih]
    | false =>
      rw [if_neg Bool.false_ne_true, hdropped s i hkept]
      exact ih s

/-! ## Requests that change places -/

/-- Made one right after the other in any state, two requests are answered the same in either order
and lead to the same state. -/
structure Commutes (step : σ → ι → α × σ) (i j : ι) : Prop where
  second : ∀ s, (step (step s i).2 j).1 = (step s j).1
  first : ∀ s, (step (step s j).2 i).1 = (step s i).1
  state : ∀ s, (step (step s i).2 j).2 = (step (step s j).2 i).2

theorem Commutes.symm {i j : ι} (h : Commutes step i j) : Commutes step j i where
  second := h.first
  first := h.second
  state s := (h.state s).symm

/-- Requests that commute, each with each, are answered the same in any order and lead to the same
state. -/
theorem runSteps_perm {is js : List ι} (hperm : is.Perm js)
    (hcommutes : is.Pairwise (Commutes step)) (s : σ) :
    (is.zip (runSteps step s is).1).Perm (js.zip (runSteps step s js).1) ∧
      (runSteps step s is).2 = (runSteps step s js).2 := by
  induction hperm generalizing s with
  | nil => exact ⟨.refl _, rfl⟩
  | cons i _ ih =>
    obtain ⟨hanswers, hlast⟩ := ih (List.pairwise_cons.1 hcommutes).2 (step s i).2
    exact ⟨hanswers.cons _, hlast⟩
  | swap i j rest =>
    have h : Commutes step j i := (List.pairwise_cons.1 hcommutes).1 i List.mem_cons_self
    simp only [runSteps, List.zip_cons_cons]
    rw [h.second, h.first, h.state]
    exact ⟨.swap _ _ _, rfl⟩
  | trans hperm _ ih ih' =>
    obtain ⟨hanswers, hlast⟩ := ih hcommutes s
    obtain ⟨hanswers', hlast'⟩ := ih' (hcommutes.perm hperm Commutes.symm) s
    exact ⟨hanswers.trans hanswers', hlast.trans hlast'⟩

end

end CertaintyFactor
