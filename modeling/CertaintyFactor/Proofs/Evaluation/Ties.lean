import CertaintyFactor.Proofs.Evaluation.Ranking

/-!
# Certainties that tie

Two candidates tie when they have one key (`Binary64.sortKey`), and only then the tie break decides.
A key is not quite a number: a NaN has that of negative infinity, and the two zeros have different
ones. So a NaN stands behind every number but negative infinity, with which it ties
(`evaluate_results_nan`), and numbers that are equal tie unless they are the two zeros, of which the
positive one stands first whatever the tie break says (`evaluate_results_eqv`).
-/

set_option autoImplicit false

namespace CertaintyFactor

namespace Binary64

/-! ## Ends of the total order, and zeros -/

/-- No number is below negative infinity. -/
theorem not_totallyBelow_negativeInfinity (x : Binary64) : ¬ x.TotallyBelow negativeInfinity := by
  cases x with
  | nan => exact id
  | signed s m =>
    have hle := m.rank_le
    rw [← orderKey_lt_iff rfl rfl]
    cases s <;> simp only [negativeInfinity, orderKey, Magnitude.infinity] <;> omega

theorem signed_eq_signed_zero_iff {s : Bool} {m : Magnitude} :
    signed s m = signed s .zero ↔ m.rank = 0 := by
  obtain ⟨rank, hrank⟩ := m
  simp [Magnitude.zero]

/-- Equal numbers are the same, or the two zeros. -/
theorem eq_or_zeros_of_eqv {x y : Binary64} (h : x.eqv y) :
    x = y ∨ x = zero ∧ y = -zero ∨ x = -zero ∧ y = zero := by
  cases x with
  | nan => cases h
  | signed s m =>
    cases y with
    | nan => cases s <;> cases h
    | signed t n =>
      cases s <;> cases t
      · have hplace : (m.rank : Int) = n.rank := by simpa [eqv, place?] using h
        exact .inl ((orderKey_inj rfl rfl).1 hplace)
      · have hplace : (m.rank : Int) = -n.rank := by simpa [eqv, place?] using h
        exact .inr (.inl ⟨signed_eq_signed_zero_iff.2 (by omega),
          signed_eq_signed_zero_iff.2 (by omega)⟩)
      · have hplace : -(m.rank : Int) = n.rank := by simpa [eqv, place?] using h
        exact .inr (.inr ⟨signed_eq_signed_zero_iff.2 (by omega),
          signed_eq_signed_zero_iff.2 (by omega)⟩)
      · have hplace : (m.rank : Int) = n.rank := by simpa [eqv, place?] using h
        exact .inl ((orderKey_inj rfl rfl).1 (by simp only [orderKey, hplace]))

end Binary64

/-! ## What ties, and what the tie break decides -/

/-- The tie break puts `a` before `b`. -/
def TieBreak.Prefers (tieBreak : TieBreak) (a b : Placed) : Prop :=
  match tieBreak with
  | .ruleOrder => a.2 < b.2
  | .damageId => Text.utf8 a.1.damageId < Text.utf8 b.1.damageId ∨
      a.1.damageId = b.1.damageId ∧ a.2 < b.2

section

variable {tieBreak : TieBreak} {a b : Placed}

theorem ranksBefore_iff_prefers :
    RanksBefore tieBreak a b ↔ b.1.cf.sortKey.TotallyBelow a.1.cf.sortKey ∨
      a.1.cf.sortKey = b.1.cf.sortKey ∧ tieBreak.Prefers a b :=
  Iff.rfl

/-- A NaN ranks before a number only if that is negative infinity and the tie break says so. -/
theorem ranksBefore_of_isNaN (ha : a.1.cf.isNaN) (hb : b.1.cf.isNaN = false) :
    RanksBefore tieBreak a b ↔
      b.1.cf = Binary64.negativeInfinity ∧ tieBreak.Prefers a b := by
  have hakey : a.1.cf.sortKey = Binary64.negativeInfinity := if_pos ha
  have hbkey : b.1.cf.sortKey = b.1.cf := if_neg (by simp [hb])
  rw [ranksBefore_iff_prefers, hakey, hbkey, eq_comm]
  exact or_iff_right (Binary64.not_totallyBelow_negativeInfinity _)

/-- Of equal numbers, the one ranks first that the tie break says, unless they are the two zeros,
of which the positive one ranks first. -/
theorem ranksBefore_of_eqv (h : a.1.cf.eqv b.1.cf) :
    RanksBefore tieBreak a b ↔ a.1.cf = .zero ∧ b.1.cf = -.zero ∨
      a.1.cf = b.1.cf ∧ tieBreak.Prefers a b := by
  have hzeros : (Binary64.zero : Binary64) ≠ -Binary64.zero := by decide
  rw [ranksBefore_iff_prefers]
  -- The keys of equal numbers are the same, but for the two zeros.
  rcases Binary64.eq_or_zeros_of_eqv h with heq | ⟨ha, hb⟩ | ⟨ha, hb⟩
  · have hirrefl : ¬ b.1.cf.sortKey.TotallyBelow b.1.cf.sortKey := by
      rw [← Binary64.orderKey_lt_iff (Binary64.isNaN_sortKey _) (Binary64.isNaN_sortKey _)]
      exact Int.lt_irrefl _
    have hsame : ¬(b.1.cf = .zero ∧ b.1.cf = -.zero) := fun ⟨hpos, hneg⟩ =>
      hzeros (hpos.symm.trans hneg)
    rw [heq, or_iff_right hirrefl, or_iff_right hsame]
    simp only [true_and]
  · rw [ha, hb]
    exact iff_of_true (.inl trivial) (.inl ⟨rfl, rfl⟩)
  · rw [ha, hb]
    refine iff_of_false ?_ ?_
    · rintro (hbelow | ⟨hkey, -⟩)
      · exact hbelow
      · exact hzeros hkey.symm
    · rintro (⟨hzero, -⟩ | ⟨hzero, -⟩)
      · exact hzeros hzero.symm
      · exact hzeros hzero.symm

end

/-! ## Places in the results -/

/-- `order` lists the candidates that the rules yield, each with its place among them in the order
of the rules, as they stand in the results. -/
structure Diagnosis.ListedAs (selection : Selection Binary64) (damages : List Damage)
    (rules : List (Rule Binary64)) (d : Diagnosis Binary64) (order : List Placed) : Prop where
  candidates : ∃ found : List (Candidate Binary64),
    List.Forall₂ (Candidate.Concludes selection damages) found
      (rules.filter fun rule => rule.Yields selection damages) ∧ order.Perm found.zipIdx
  results : d.results = order.mapIdx fun k p => { p.1 with rank := k + 1 }

section

variable {config : Config} {selection : Selection Binary64} {rules : List (Rule Binary64)}
  {damages : List Damage} {d : Diagnosis Binary64}

theorem exists_listedAs (h : evaluate config selection rules damages = .ok d) :
    ∃ order : List Placed, d.ListedAs selection damages rules order ∧
      order.Pairwise (RanksBefore config.tieBreak) := by
  obtain ⟨order, hperm, hsorted, -, hrank⟩ :=
    rank_eq config.tieBreak (candidates selection damages rules)
  refine ⟨order, ⟨⟨_, forall₂_candidates selection damages rules, hperm⟩, ?_⟩, hsorted⟩
  rw [evaluate_eq_ok h, results_diagnosisOf, hrank]

/-- In a ranked order, what stands first is what ranks first. -/
theorem lt_iff_ranksBefore {tieBreak : TieBreak} {order : List Placed}
    (h : order.Pairwise (RanksBefore tieBreak)) {i j : Nat} {a b : Placed}
    (ha : order[i]? = some a) (hb : order[j]? = some b) (hne : i ≠ j) :
    i < j ↔ RanksBefore tieBreak a b := by
  obtain ⟨hi, rfl⟩ := List.getElem?_eq_some_iff.1 ha
  obtain ⟨hj, rfl⟩ := List.getElem?_eq_some_iff.1 hb
  rw [List.pairwise_iff_getElem] at h
  constructor
  · exact h i j hi hj
  · intro hbefore
    rcases Nat.lt_or_gt_of_ne hne with hlt | hgt
    · exact hlt
    · exact absurd (h j i hj hi hgt) hbefore.asymm

/-- A result that is a NaN stands behind all numbers but negative infinity; which of these two
stands first is what the tie break says. So the NaN results come last where no result is negative
infinity. -/
theorem evaluate_results_nan (h : evaluate config selection rules damages = .ok d) :
    (∃ order : List Placed, d.ListedAs selection damages rules order ∧
      ∀ (i j : Nat) (a b : Placed), order[i]? = some a → order[j]? = some b →
        a.1.cf.isNaN → b.1.cf.isNaN = false →
        (i < j ↔ b.1.cf = Binary64.negativeInfinity ∧ config.tieBreak.Prefers a b)) ∧
    ((∀ c ∈ d.results, c.cf ≠ Binary64.negativeInfinity) →
      d.results.Pairwise fun a b => a.cf.isNaN → b.cf.isNaN) := by
  obtain ⟨order, hlisted, hsorted⟩ := exists_listedAs h
  have hplaces : ∀ (i j : Nat) (a b : Placed), order[i]? = some a → order[j]? = some b →
      a.1.cf.isNaN → b.1.cf.isNaN = false →
      (i < j ↔ b.1.cf = Binary64.negativeInfinity ∧ config.tieBreak.Prefers a b) := by
    intro i j a b ha hb hnan hnumber
    have hne : i ≠ j := by
      rintro rfl
      obtain rfl := Option.some.inj (ha.symm.trans hb)
      rw [hnan] at hnumber
      cases hnumber
    rw [lt_iff_ranksBefore hsorted ha hb hne, ranksBefore_of_isNaN hnan hnumber]
  refine ⟨⟨order, hlisted, hplaces⟩, fun hfinite => ?_⟩
  rw [hlisted.results, List.pairwise_iff_getElem]
  intro i j hi hj hlt hnan
  rw [List.length_mapIdx] at hi hj
  rw [List.getElem_mapIdx] at hnan ⊢
  by_contra hnumber
  have hinfinite := (hplaces i j _ _ (List.getElem?_eq_getElem hi) (List.getElem?_eq_getElem hj)
    hnan (by simpa using hnumber)).1 hlt
  refine hfinite { order[j].1 with rank := j + 1 } ?_ hinfinite.1
  rw [hlisted.results]
  exact List.mem_mapIdx.2 ⟨j, hj, rfl⟩

/-- Of two results that are equal numbers, the one stands first that the tie break says, unless one
is zero and the other negative zero: then zero stands first. -/
theorem evaluate_results_eqv (h : evaluate config selection rules damages = .ok d) :
    ∃ order : List Placed, d.ListedAs selection damages rules order ∧
      ∀ (i j : Nat) (a b : Placed), i ≠ j → order[i]? = some a → order[j]? = some b →
        a.1.cf.eqv b.1.cf →
        (i < j ↔ a.1.cf = .zero ∧ b.1.cf = -.zero ∨
          a.1.cf = b.1.cf ∧ config.tieBreak.Prefers a b) := by
  obtain ⟨order, hlisted, hsorted⟩ := exists_listedAs h
  refine ⟨order, hlisted, fun i j a b hne ha hb heqv => ?_⟩
  rw [lt_iff_ranksBefore hsorted ha hb hne, ranksBefore_of_eqv heqv]

end

/-- A symptom the user is sure of, and one whose certainty is no number. -/
def boundlessSelection : Selection Binary64 :=
  [⟨"G01", 1⟩, ⟨"G02", .nan⟩]

/-- A rule whose certainty is no number, and one whose certainty is below all numbers. -/
def boundlessRules : List (Rule Binary64) :=
  [{ id := "R1", damageId := "K01", entries := [⟨"G02", 0.5, none⟩] },
    { id := "R2", damageId := "K02", entries := [⟨"G01", .negativeInfinity, none⟩] }]

/-- A symptom the user is sure is not there. -/
def absentSelection : Selection Binary64 :=
  [⟨"G01", 0⟩]

/-- A rule for a symptom, and one against it. -/
def opposedRules : List (Rule Binary64) :=
  [{ id := "R1", damageId := "K02", entries := [⟨"G01", 0.5, none⟩] },
    { id := "R2", damageId := "K01", entries := [⟨"G01", -0.5, none⟩] }]

def engineDamages : List Damage :=
  [⟨"K01", "Fouled spark plug", "", ""⟩, ⟨"K02", "Dirty carburettor", "", ""⟩]

theorem evaluate_results_nan_boundless :
    ∃ d, evaluate {} boundlessSelection boundlessRules engineDamages = .ok d ∧
      d.results.map (·.cf) = [.nan, .negativeInfinity] ∧
      (∃ order : List Placed, d.ListedAs boundlessSelection engineDamages boundlessRules order ∧
        ∀ (i j : Nat) (a b : Placed), order[i]? = some a → order[j]? = some b →
          a.1.cf.isNaN → b.1.cf.isNaN = false →
          (i < j ↔ b.1.cf = Binary64.negativeInfinity ∧ TieBreak.damageId.Prefers a b)) ∧
      ((∀ c ∈ d.results, c.cf ≠ Binary64.negativeInfinity) →
        d.results.Pairwise fun a b => a.cf.isNaN → b.cf.isNaN) := by
  have hlenient : ({} : Config).strictRanges = false := rfl
  have hselection : boundlessSelection ≠ [] := nofun
  have hrules : boundlessRules ≠ [] := nofun
  have h := evaluate_lenient hlenient hselection hrules engineDamages
  refine ⟨_, h, ?_, evaluate_results_nan h⟩
  rw [results_diagnosisOf, rank_of_pairwise (by decide +kernel)]
  decide +kernel

theorem evaluate_results_eqv_zeros :
    ∃ d, evaluate .strict absentSelection opposedRules engineDamages = .ok d ∧
      d.results.map (fun c => (c.damageId, c.cf)) = [("K02", .zero), ("K01", -.zero)] ∧
      ∃ order : List Placed, d.ListedAs absentSelection engineDamages opposedRules order ∧
        ∀ (i j : Nat) (a b : Placed), i ≠ j → order[i]? = some a → order[j]? = some b →
          a.1.cf.eqv b.1.cf →
          (i < j ↔ a.1.cf = .zero ∧ b.1.cf = -.zero ∨
            a.1.cf = b.1.cf ∧ TieBreak.damageId.Prefers a b) := by
  have hstart : refusal? .strict absentSelection opposedRules = none := by decide +kernel
  have hjudged : ∀ rule ∈ opposedRules, rule.judge .strict absentSelection engineDamages =
      .ok (rule.verdict absentSelection engineDamages) := by decide +kernel
  have h := evaluate_of_forall hstart hjudged
  refine ⟨_, h, ?_, evaluate_results_eqv h⟩
  rw [results_diagnosisOf, rank_of_pairwise (by decide +kernel)]
  decide +kernel

end CertaintyFactor
