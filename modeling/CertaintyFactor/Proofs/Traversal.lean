import Mathlib.Data.List.Forall2

/-!
# Going through a list

A list gone through with something that may fail: it succeeds with one answer for each item, or
fails with the error of the first item that gives one. Where the error does not matter, a result is
looked at as an option.
-/

set_option autoImplicit false

namespace CertaintyFactor

theorem toOption_eq_some_iff {ε α : Type} {result : Except ε α} {a : α} :
    result.toOption = some a ↔ result = .ok a := by
  cases result <;> simp [Except.toOption]

theorem toOption_bind {ε α β : Type} {result : Except ε α} {next : α → Except ε β}
    {next? : α → Option β} (h : ∀ a, (next a).toOption = next? a) :
    (result >>= next).toOption = result.toOption.bind next? := by
  cases result with
  | error e => rfl
  | ok a => exact h a

theorem mapM_congr {α β : Type} {m : Type → Type} [Monad m] [LawfulMonad m] {f g : α → m β}
    {items : List α} (h : ∀ a ∈ items, f a = g a) : items.mapM f = items.mapM g := by
  induction items with
  | nil => rfl
  | cons a items ih =>
    rw [List.mapM_cons, List.mapM_cons, h a List.mem_cons_self,
      ih fun b hb => h b (List.mem_cons_of_mem a hb)]

section

variable {α β ε : Type} {f : α → Except ε β} {items : List α}

theorem mapM_eq_ok_iff {answers : List β} :
    items.mapM f = .ok answers ↔ List.Forall₂ (fun a answer => f a = .ok answer) items answers := by
  induction items generalizing answers with
  | nil =>
    rw [List.forall₂_nil_left_iff]
    constructor
    · intro h
      exact (Except.ok.inj h).symm
    · rintro rfl
      rfl
  | cons a items ih =>
    rw [List.mapM_cons, List.forall₂_cons_left_iff]
    cases ha : f a with
    | error e => simp [bind, Except.bind]
    | ok answer =>
      cases hitems : items.mapM f with
      | error e => simp [← ih, hitems, bind, Except.bind]
      | ok rest => simp [← ih, hitems, bind, Except.bind, pure, Except.pure, eq_comm]

/-- Doing something with each item of a list fails with the error of the first item that gives
one. -/
theorem mapM_eq_error_iff {error : ε} :
    items.mapM f = .error error ↔ ∃ before a after, items = before ++ a :: after ∧
      f a = .error error ∧ ∀ b ∈ before, ∃ answer, f b = .ok answer := by
  induction items with
  | nil =>
    constructor
    · intro h
      cases h
    · rintro ⟨before, a, after, hsplit, -, -⟩
      cases before <;> cases hsplit
  | cons first rest ih =>
    rw [List.mapM_cons]
    cases hfirst : f first with
    | error e =>
      constructor
      · intro h
        obtain rfl : e = error := Except.error.inj h
        exact ⟨[], first, rest, rfl, hfirst, nofun⟩
      · rintro ⟨before, a, after, hsplit, ha, hbefore⟩
        cases before with
        | nil =>
          obtain ⟨rfl, -⟩ := List.cons.inj hsplit
          obtain rfl : e = error := Except.error.inj (hfirst.symm.trans ha)
          rfl
        | cons b before =>
          obtain ⟨rfl, -⟩ := List.cons.inj hsplit
          obtain ⟨answer, hanswer⟩ := hbefore first List.mem_cons_self
          cases hfirst.symm.trans hanswer
    | ok answer =>
      have hrest : (do let b ← Except.ok answer; let bs ← rest.mapM f; pure (b :: bs)) =
          Except.error error ↔ rest.mapM f = .error error := by
        show (rest.mapM f >>= fun bs => pure (answer :: bs)) = _ ↔ _
        cases rest.mapM f <;> simp [bind, Except.bind, pure, Except.pure]
      rw [hrest, ih]
      constructor
      · rintro ⟨before, a, after, rfl, ha, hbefore⟩
        refine ⟨first :: before, a, after, rfl, ha, ?_⟩
        exact List.forall_mem_cons.2 ⟨⟨answer, hfirst⟩, hbefore⟩
      · rintro ⟨before, a, after, hsplit, ha, hbefore⟩
        cases before with
        | nil =>
          obtain ⟨rfl, -⟩ := List.cons.inj hsplit
          cases hfirst.symm.trans ha
        | cons b before =>
          obtain ⟨-, rfl⟩ := List.cons.inj hsplit
          exact ⟨before, a, after, rfl, ha, (List.forall_mem_cons.1 hbefore).2⟩

end

end CertaintyFactor
