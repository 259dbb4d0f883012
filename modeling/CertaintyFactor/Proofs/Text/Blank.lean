import CertaintyFactor.Text.Blank
import Mathlib.Data.List.DropRight

/-!
# Trimmed texts

Trimming takes the blanks off both ends of a text and nothing else: what is left begins and ends
without one (`isTrimmed_trim`), and whatever blanks are put around such a text, trimming gives the
text back (`IsTrimmed.trim_append`).
-/

set_option autoImplicit false

namespace CertaintyFactor.Text

/-- Only blanks. -/
def IsGap (text : List Char) : Prop :=
  ∀ c ∈ text, isBlank c

instance (text : List Char) : Decidable (IsGap text) :=
  decidable_of_iff (text.all isBlank = true) List.all_eq_true

/-- A text that neither begins nor ends with a blank. -/
structure IsTrimmed (text : List Char) : Prop where
  head : ∀ c ∈ text.head?, isBlank c = false
  last : ∀ c ∈ text.getLast?, isBlank c = false

theorem isTrimmed_iff {text : List Char} :
    IsTrimmed text ↔ text.head?.any isBlank = false ∧ text.getLast?.any isBlank = false := by
  rw [Option.any_eq_false, Option.any_eq_false]
  exact ⟨fun h => ⟨h.head, h.last⟩, fun h => ⟨h.1, h.2⟩⟩

instance (text : List Char) : Decidable (IsTrimmed text) :=
  decidable_of_iff _ isTrimmed_iff.symm

theorem forall_isBlank_eq_false_iff {text : List Char} :
    (∀ c ∈ text, isBlank c = false) ↔ text.any isBlank = false := by
  rw [List.any_eq_false]
  simp

theorem isBlank_of_isDigit {c : Char} (h : c.isDigit) : isBlank c = false := by
  simp only [Char.isDigit, Bool.and_eq_true, decide_eq_true_eq] at h
  have hleast : 48 ≤ c.toNat := h.1
  have hmost : c.toNat ≤ 57 := h.2
  simp only [isBlank, Bool.or_eq_false_iff, Bool.and_eq_false_iff, decide_eq_false_iff_not]
  omega

theorem isTrimmed_of_forall {text : List Char} (h : ∀ c ∈ text, isBlank c = false) :
    IsTrimmed text :=
  ⟨fun c hc => h c (List.mem_of_mem_head? hc), fun c hc => h c (List.mem_of_mem_getLast? hc)⟩

theorem isPrefix_trimEnd (text : List Char) : trimEnd text <+: text :=
  List.rdropWhile_prefix isBlank text

theorem trim_sublist (text : List Char) : (trim text).Sublist text :=
  (isPrefix_trimEnd (trimStart text)).sublist.trans (List.dropWhile_sublist isBlank)

theorem isTrimmed_trim (text : List Char) : IsTrimmed (trim text) := by
  constructor
  · intro c hc
    -- What is left when the end is trimmed too begins like the text before that.
    have hstart : (trimStart text).head? = some c := by
      obtain ⟨rest, hrest⟩ := isPrefix_trimEnd (trimStart text)
      rw [← hrest, List.head?_append, ← trim, Option.mem_def.1 hc, Option.some_or]
    have hnot := List.head?_dropWhile_not isBlank text
    rw [← trimStart, hstart] at hnot
    simpa using hnot
  · intro c hc
    have hnot := List.head?_dropWhile_not isBlank (trimStart text).reverse
    rw [trim, trimEnd, List.getLast?_reverse, Option.mem_def] at hc
    simpa [hc] using hnot

theorem IsTrimmed.trimStart_append {text : List Char} (h : IsTrimmed text) (hne : text ≠ [])
    {before : List Char} (hbefore : IsGap before) (after : List Char) :
    trimStart (before ++ (text ++ after)) = text ++ after := by
  obtain ⟨c, text, rfl⟩ := List.exists_cons_of_ne_nil hne
  have hc : isBlank c = false := h.head c rfl
  rw [trimStart, List.dropWhile_append_of_pos hbefore, List.cons_append,
    List.dropWhile_cons_of_neg (by simp [hc])]

theorem IsTrimmed.trimEnd_append {text : List Char} (h : IsTrimmed text) {after : List Char}
    (hafter : IsGap after) : trimEnd (text ++ after) = text := by
  rw [trimEnd, List.reverse_append,
    List.dropWhile_append_of_pos fun c hc => hafter c (List.mem_reverse.1 hc)]
  have hself : text.rdropWhile isBlank = text := by
    rw [List.rdropWhile_eq_self_iff]
    intro hne
    simp [h.last _ (List.getLast?_eq_getLast_of_ne_nil hne)]
  exact hself

/-- Blanks around a text are trimmed. -/
theorem IsTrimmed.trim_append {text : List Char} (h : IsTrimmed text) (hne : text ≠ [])
    {before after : List Char} (hbefore : IsGap before) (hafter : IsGap after) :
    trim (before ++ (text ++ after)) = text := by
  rw [trim, h.trimStart_append hne hbefore, h.trimEnd_append hafter]

end CertaintyFactor.Text
