import CertaintyFactor.Certainty
import Mathlib.Algebra.BigOperators.Group.List.Basic
import Mathlib.Algebra.Order.BigOperators.GroupWithZero.List
import Mathlib.Algebra.Order.Floor.Ring
import Mathlib.Data.Rat.Floor
import Mathlib.Tactic.Linarith
import Mathlib.Tactic.Ring

/-!
# Certainties in exact arithmetic

What evidence leaves to one multiplies: combining two certainties multiplies their complements. So
in exact arithmetic some pieces of evidence come to the same certainty in any order and in any
grouping (`combineAll?_eq_together`, `together_perm`, `together_append`). In the unit interval they
come to no less than each of them (`le_together`), and to more if each of them becomes stronger
(`together_mono`). Over the rationals a whole evaluation can be read exactly.
-/

set_option autoImplicit false

namespace CertaintyFactor

/-! ## Evidence taken together -/

section

variable {R : Type} [CommRing R]

/-- The certainty of some pieces of evidence taken together: what none of them leaves to one. -/
def together (values : List R) : R :=
  1 - (values.map (1 - ·)).prod

theorem together_cons (a : R) (rest : List R) :
    together (a :: rest) = combine a (together rest) := by
  unfold together combine
  rw [List.map_cons, List.prod_cons]
  ring

/-- A piece of evidence that says nothing adds nothing. -/
theorem together_zero_cons (rest : List R) : together (0 :: rest) = together rest := by
  unfold together
  rw [List.map_cons, List.prod_cons, sub_zero, one_mul]

/-- Combining some pieces of evidence one after the other takes them together. -/
theorem foldl_combine (first : R) (rest : List R) :
    rest.foldl combine first = together (first :: rest) := by
  induction rest generalizing first with
  | nil =>
    unfold together
    simp
  | cons a rest ih =>
    rw [List.foldl_cons, ih]
    unfold together combine
    simp only [List.map_cons, List.prod_cons]
    ring

theorem combineAll?_eq_together {values : List R} (h : values ≠ []) :
    combineAll? values = some (together values) := by
  obtain ⟨first, rest, rfl⟩ := List.exists_cons_of_ne_nil h
  rw [combineAll?, foldl_combine]

theorem together_perm {values other : List R} (h : values.Perm other) :
    together values = together other := by
  unfold together
  rw [(h.map _).prod_eq]

/-- Pieces of evidence can be taken together group by group. -/
theorem together_append (values other : List R) :
    together (values ++ other) = combine (together values) (together other) := by
  unfold together combine
  rw [List.map_append, List.prod_append]
  ring

theorem combineAll?_perm {values other : List R} (h : values.Perm other) :
    combineAll? values = combineAll? other := by
  by_cases hvalues : values = []
  · subst hvalues
    rw [h.nil_eq]
  · have hother : other ≠ [] := fun hother => hvalues (hother ▸ h).eq_nil
    rw [combineAll?_eq_together hvalues, combineAll?_eq_together hother, together_perm h]

end

/-! ## Evidence in the unit interval -/

section

variable {R : Type} [CommRing R] [PartialOrder R] [IsOrderedRing R]

/-- Combining adds to each of two certainties some share of what it leaves to one. -/
theorem combine_bounds {a b : R} (ha : 0 ≤ a ∧ a ≤ 1) (hb : 0 ≤ b ∧ b ≤ 1) :
    a ≤ combine a b ∧ b ≤ combine a b ∧ combine a b ≤ 1 := by
  have hleft : 0 ≤ b * (1 - a) := mul_nonneg hb.1 (sub_nonneg.2 ha.2)
  have hright : 0 ≤ a * (1 - b) := mul_nonneg ha.1 (sub_nonneg.2 hb.2)
  have hnone : 0 ≤ (1 - a) * (1 - b) := mul_nonneg (sub_nonneg.2 ha.2) (sub_nonneg.2 hb.2)
  unfold combine
  refine ⟨le_add_of_nonneg_right hleft, ?_, ?_⟩
  · have hcomm : a + b * (1 - a) = b + a * (1 - b) := by ring
    rw [hcomm]
    exact le_add_of_nonneg_right hright
  · have hone : a + b * (1 - a) = 1 - (1 - a) * (1 - b) := by ring
    rw [hone]
    exact sub_le_self 1 hnone

theorem together_mem_unit {values : List R} (h : ∀ x ∈ values, 0 ≤ x ∧ x ≤ 1) :
    0 ≤ together values ∧ together values ≤ 1 := by
  induction values with
  | nil => simp [together]
  | cons a rest ih =>
    obtain ⟨ha, hrest⟩ := List.forall_mem_cons.1 h
    obtain ⟨hle, -, hone⟩ := combine_bounds ha (ih hrest)
    rw [together_cons]
    exact ⟨le_trans ha.1 hle, hone⟩

/-- Taken together with others, no piece of evidence counts for less than alone. -/
theorem le_together {values : List R} (h : ∀ x ∈ values, 0 ≤ x ∧ x ≤ 1) :
    ∀ x ∈ values, x ≤ together values := by
  induction values with
  | nil => exact nofun
  | cons a rest ih =>
    obtain ⟨ha, hrest⟩ := List.forall_mem_cons.1 h
    obtain ⟨hleft, hright, -⟩ := combine_bounds ha (together_mem_unit hrest)
    rw [together_cons]
    exact List.forall_mem_cons.2 ⟨hleft, fun x hx => le_trans (ih hrest x hx) hright⟩

/-- Pieces of evidence that all become stronger, but none more than certain, become stronger taken
together. -/
theorem together_mono {α : Type} {items : List α} {f g : α → R}
    (h : ∀ a ∈ items, f a ≤ g a) (hone : ∀ a ∈ items, g a ≤ 1) :
    together (items.map f) ≤ together (items.map g) := by
  unfold together
  rw [List.map_map, List.map_map]
  apply sub_le_sub_left
  apply List.prod_map_le_prod_map₀
  · intro a ha
    exact sub_nonneg.2 (hone a ha)
  · intro a ha
    exact sub_le_sub_left (h a ha) 1

theorem together_le_of_forall₂ {values other : List R} (h : List.Forall₂ (· ≤ ·) values other)
    (hone : ∀ x ∈ other, x ≤ 1) : together values ≤ together other := by
  obtain ⟨hlength, hle⟩ := List.forall₂_iff_zip.1 h
  have hpairs : ∀ p ∈ values.zip other, p.1 ≤ p.2 := fun _ hp => hle hp
  have hmono := together_mono hpairs fun p hp => hone p.2 (List.of_mem_zip hp).2
  rwa [List.map_fst_zip hlength.le, List.map_snd_zip hlength.ge] at hmono

end

/-! ## Rational certainties -/

/-- The nearest integer, a half going away from zero. -/
def roundHalfAway (x : ℚ) : ℤ :=
  if 0 ≤ x then ⌊x + 1 / 2⌋ else ⌈x - 1 / 2⌉

theorem roundHalfAway_mono {x y : ℚ} (h : x ≤ y) : roundHalfAway x ≤ roundHalfAway y := by
  unfold roundHalfAway
  by_cases hx : 0 ≤ x
  · rw [if_pos hx, if_pos (le_trans hx h)]
    exact Int.floor_le_floor (by linarith)
  · rw [if_neg hx]
    by_cases hy : 0 ≤ y
    · rw [if_pos hy]
      have hneg : ⌈x - 1 / 2⌉ ≤ 0 := Int.ceil_le.2 (by push_cast; linarith)
      have hpos : 0 ≤ ⌊y + 1 / 2⌋ := Int.floor_nonneg.2 (by linarith)
      exact le_trans hneg hpos
    · rw [if_neg hy]
      exact Int.ceil_le_ceil (by linarith)

/-- Certainties in exact arithmetic. -/
instance : Confidence ℚ where
  validUser x := 0 ≤ x && x ≤ 1
  validExpert x := -1 ≤ x && x ≤ 1
  percent x := roundHalfAway (x * 100)
  compareCertainty x y := compare x y

theorem percent_rat_mono {x y : ℚ} (h : x ≤ y) : Confidence.percent x ≤ Confidence.percent y :=
  roundHalfAway_mono (by linarith)

end CertaintyFactor
