import CertaintyFactor.Decimal.Fixed
import Mathlib.Tactic.Ring

/-!
# Rounding keeps the order

A greater quotient never rounds to a smaller magnitude (`Magnitude.nearest_mono`), and a magnitude
rounds to itself (`Magnitude.nearest_units`). Both follow from the two steps of rounding: the scale
grows with the quotient, and on one scale a whole number of units is rounded half to even.
-/

set_option autoImplicit false

namespace CertaintyFactor

/-! ## Whole numbers -/

namespace Decimal

theorem le_roundedQuotient (n d : Nat) : n / d ≤ roundedQuotient n d := by
  unfold roundedQuotient
  split <;> omega

theorem roundedQuotient_le (n d : Nat) : roundedQuotient n d ≤ n / d + 1 := by
  unfold roundedQuotient
  split <;> omega

/-- Whole numbers are not rounded. -/
theorem roundedQuotient_mul (q : Nat) {d : Nat} (hd : 0 < d) : roundedQuotient (q * d) d = q := by
  have hlt : compare (2 * (q * d % d)) d = .lt := by
    rw [Nat.mul_mod_left, Nat.compare_eq_lt]
    exact hd
  rw [roundedQuotient, hlt]
  exact Nat.mul_div_cancel q hd

theorem roundedQuotient_mono {n d n' d' : Nat} (hd : 0 < d) (hd' : 0 < d')
    (h : n * d' ≤ n' * d) : roundedQuotient n d ≤ roundedQuotient n' d' := by
  have hquotient : n / d ≤ n' / d' := by
    rw [Nat.le_div_iff_mul_le hd']
    refine Nat.le_of_mul_le_mul_right ?_ hd
    calc n / d * d' * d = n / d * d * d' := by ring
      _ ≤ n * d' := Nat.mul_le_mul_right d' (Nat.div_mul_le_self n d)
      _ ≤ n' * d := h
  rcases Nat.lt_or_eq_of_le hquotient with hlt | heq
  · calc roundedQuotient n d ≤ n / d + 1 := roundedQuotient_le n d
      _ ≤ n' / d' := hlt
      _ ≤ roundedQuotient n' d' := le_roundedQuotient n' d'
  · -- On equal quotients the remainders decide.
    have hremainder : n % d * d' ≤ n' % d' * d := by
      have hn := Nat.div_add_mod n d
      have hn' := Nat.div_add_mod n' d'
      rw [← hn, ← hn', heq] at h
      have hsame : d * (n' / d') * d' = d' * (n' / d') * d := by ring
      rw [Nat.add_mul, Nat.add_mul, hsame] at h
      exact Nat.le_of_add_le_add_left h
    have hdouble : 2 * (n % d) * d' ≤ 2 * (n' % d') * d := by
      rw [Nat.mul_assoc, Nat.mul_assoc]
      exact Nat.mul_le_mul_left 2 hremainder
    unfold roundedQuotient
    rw [heq]
    split
    · split <;> omega
    · next hgt =>
      have hgt' : d' < 2 * (n' % d') := by
        refine Nat.lt_of_mul_lt_mul_right (a := d) ?_
        calc d' * d = d * d' := Nat.mul_comm d' d
          _ < 2 * (n % d) * d' := Nat.mul_lt_mul_of_pos_right (Nat.compare_eq_gt.1 hgt) hd'
          _ ≤ 2 * (n' % d') * d := hdouble
      rw [Nat.compare_eq_gt.2 hgt']
    · next htie =>
      have hle : d' ≤ 2 * (n' % d') := by
        refine Nat.le_of_mul_le_mul_right (c := d) ?_ hd
        calc d' * d = 2 * (n % d) * d' := by rw [Nat.compare_eq_eq.1 htie, Nat.mul_comm]
          _ ≤ 2 * (n' % d') * d := hdouble
      split
      · next hlt => exact absurd (Nat.compare_eq_lt.1 hlt) (Nat.not_lt.2 hle)
      · omega
      · exact Nat.le_refl _

end Decimal

namespace Binary64

theorem unitsPerOne_pos : 0 < unitsPerOne := by
  simp only [unitsPerOne, Nat.pow_eq, Nat.two_pow_pos]

namespace Magnitude

/-! ## Scales -/

/-- Scales begin at even ranks, so the parity of a rank is that of its quotient. -/
theorem even_scale (s : Nat) : s * fractions % 2 = 0 :=
  Nat.mod_eq_zero_of_dvd (Dvd.dvd.mul_left (by decide) s)

theorem rankBelow_eq (n d : Nat) :
    rankBelow n d = scale n d * fractions + n / (d * 2 ^ scale n d) := by
  rw [rankBelow, Nat.pow_eq]

theorem nearestRank_eq (n d : Nat) :
    nearestRank n d =
      scale n d * fractions + Decimal.roundedQuotient n (d * 2 ^ scale n d) := by
  have heven := even_scale (scale n d)
  unfold nearestRank Decimal.roundedQuotient
  simp only [Nat.pow_eq, rankBelow_eq]
  generalize scale n d * fractions = base at heven ⊢
  generalize d * 2 ^ scale n d = unit
  cases compare (2 * (n % unit)) unit with
  | lt => rfl
  | gt => rfl
  | eq =>
    dsimp only
    omega

/-- On its scale a quotient has 53 bits at most. -/
theorem div_scale_lt (n d : Nat) : n / (d * 2 ^ scale n d) < 2 ^ 53 := by
  rw [← Nat.div_div_eq_div_mul, Nat.div_lt_iff_lt_mul (Nat.two_pow_pos _), ← Nat.pow_add]
  refine Nat.lt_of_lt_of_le Nat.lt_log2_self (Nat.pow_le_pow_right (by decide) ?_)
  unfold scale
  omega

/-- Past the smallest scale a quotient has 53 bits. -/
theorem le_div_scale {n d : Nat} (h : 0 < scale n d) : 2 ^ 52 ≤ n / (d * 2 ^ scale n d) := by
  have hne : n / d ≠ 0 := by
    intro hzero
    simp [scale, hzero] at h
  rw [← Nat.div_div_eq_div_mul, Nat.le_div_iff_mul_le (Nat.two_pow_pos _), ← Nat.pow_add]
  refine Nat.le_trans (Nat.pow_le_pow_right (by decide) ?_) (Nat.log2_self_le hne)
  unfold scale at h ⊢
  omega

theorem scale_mono {n d n' d' : Nat} (h : n / d ≤ n' / d') : scale n d ≤ scale n' d' := by
  have hlog : Nat.log2 (n / d) ≤ Nat.log2 (n' / d') := by
    by_cases hzero : n / d = 0
    · rw [hzero, Nat.log2_zero]
      exact Nat.zero_le _
    · have hpos : n' / d' ≠ 0 := Nat.pos_iff_ne_zero.1
        (Nat.lt_of_lt_of_le (Nat.pos_of_ne_zero hzero) h)
      rw [Nat.le_log2 hpos]
      exact Nat.le_trans (Nat.log2_self_le hzero) h
  unfold scale
  omega

theorem nearestRank_mono {n d n' d' : Nat} (hd : 0 < d) (hd' : 0 < d') (h : n * d' ≤ n' * d) :
    nearestRank n d ≤ nearestRank n' d' := by
  have hquotient : n / d ≤ n' / d' := by
    rw [Nat.le_div_iff_mul_le hd']
    refine Nat.le_of_mul_le_mul_right ?_ hd
    calc n / d * d' * d = n / d * d * d' := by ring
      _ ≤ n * d' := Nat.mul_le_mul_right d' (Nat.div_mul_le_self n d)
      _ ≤ n' * d := h
  rw [nearestRank_eq, nearestRank_eq]
  rcases Nat.lt_or_eq_of_le (scale_mono hquotient) with hlt | heq
  · -- A smaller scale ends where the next one begins.
    have hupper := Decimal.roundedQuotient_le n (d * 2 ^ scale n d)
    have hbits := div_scale_lt n d
    have hlower := Decimal.le_roundedQuotient n' (d' * 2 ^ scale n' d')
    have hbits' := le_div_scale (n := n') (d := d') (Nat.zero_lt_of_lt hlt)
    have hscale : (scale n d + 1) * fractions ≤ scale n' d' * fractions :=
      Nat.mul_le_mul_right _ hlt
    rw [Nat.add_mul] at hscale
    simp only [fractions] at hscale ⊢
    omega
  · rw [heq]
    refine Nat.add_le_add_left (Decimal.roundedQuotient_mono
      (Nat.mul_pos hd (Nat.two_pow_pos _)) (Nat.mul_pos hd' (Nat.two_pow_pos _)) ?_) _
    calc n * (d' * 2 ^ scale n' d') = n * d' * 2 ^ scale n' d' := by ring
      _ ≤ n' * d * 2 ^ scale n' d' := Nat.mul_le_mul_right _ h
      _ = n' * (d * 2 ^ scale n' d') := by ring

/-- A greater quotient has no smaller nearest magnitude. -/
theorem nearest_mono {n d n' d' : Nat} (hd : 0 < d) (hd' : 0 < d') (h : n * d' ≤ n' * d) :
    (nearest n d).rank ≤ (nearest n' d').rank := by
  have hrank := nearestRank_mono hd hd' h
  simp only [nearest, ofRank]
  omega

/-- The nearest magnitude depends on the value of a quotient only. -/
theorem nearest_congr {n d n' d' : Nat} (hd : 0 < d) (hd' : 0 < d') (h : n * d' = n' * d) :
    nearest n d = nearest n' d' := by
  have hrank : nearestRank n d = nearestRank n' d' :=
    Nat.le_antisymm (nearestRank_mono hd hd' h.le) (nearestRank_mono hd' hd h.ge)
  simp only [nearest, hrank]

/-! ## Units -/

theorem units_of_lt {m : Magnitude} (h : m.rank < fractions) : m.units = m.rank :=
  if_pos h

theorem units_of_le {m : Magnitude} (h : fractions ≤ m.rank) :
    m.units = (fractions + m.rank % fractions) * 2 ^ (m.rank / fractions - 1) :=
  if_neg (Nat.not_lt.2 h)

theorem units_mono {m m' : Magnitude} (h : m.rank ≤ m'.rank) : m.units ≤ m'.units := by
  have hpos (k : Nat) : 1 ≤ 2 ^ k := Nat.two_pow_pos k
  rcases Nat.lt_or_ge m'.rank fractions with hlt' | hge'
  · rw [units_of_lt (Nat.lt_of_le_of_lt h hlt'), units_of_lt hlt']
    exact h
  rw [units_of_le hge']
  rcases Nat.lt_or_ge m.rank fractions with hlt | hge
  · rw [units_of_lt hlt]
    calc m.rank ≤ (fractions + m'.rank % fractions) * 1 := by omega
      _ ≤ _ := Nat.mul_le_mul_left _ (hpos _)
  rw [units_of_le hge]
  have hexponent : m.rank / fractions ≤ m'.rank / fractions := Nat.div_le_div_right h
  have hone : 1 ≤ m.rank / fractions := (Nat.one_le_div_iff (by decide)).2 hge
  rcases Nat.lt_or_eq_of_le hexponent with hlt | heq
  · have hfraction : m.rank % fractions < fractions := Nat.mod_lt _ (by decide)
    calc (fractions + m.rank % fractions) * 2 ^ (m.rank / fractions - 1)
        ≤ fractions * 2 * 2 ^ (m.rank / fractions - 1) := Nat.mul_le_mul_right _ (by omega)
      _ = fractions * 2 ^ (m.rank / fractions) := by
          rw [Nat.mul_assoc, ← Nat.pow_succ', Nat.succ_eq_add_one, Nat.sub_add_cancel hone]
      _ ≤ fractions * 2 ^ (m'.rank / fractions - 1) :=
          Nat.mul_le_mul_left _ (Nat.pow_le_pow_right (by decide) (by omega))
      _ ≤ _ := Nat.mul_le_mul_right _ (Nat.le_add_right _ _)
  · have hm := Nat.div_add_mod m.rank fractions
    have hm' := Nat.div_add_mod m'.rank fractions
    rw [heq] at hm ⊢
    exact Nat.mul_le_mul_right _ (by omega)

/-- The scale of a magnitude past the subnormal ones is the exponent it is built with. -/
theorem scale_units {m : Magnitude} (h : fractions ≤ m.rank) :
    scale m.units 1 = m.rank / fractions - 1 := by
  have hfraction : m.rank % fractions < fractions := Nat.mod_lt _ (by decide)
  have hbits : fractions + m.rank % fractions < 2 ^ 53 := by
    simp only [fractions] at hfraction ⊢
    omega
  have hpos := Nat.two_pow_pos (m.rank / fractions - 1)
  have hlog : Nat.log2 m.units = 52 + (m.rank / fractions - 1) := by
    rw [units_of_le h, Nat.log2_eq_iff (Nat.mul_ne_zero (by omega) (by omega))]
    constructor
    · rw [Nat.pow_add]
      exact Nat.mul_le_mul_right _ (Nat.le_add_right _ _)
    · calc (fractions + m.rank % fractions) * 2 ^ (m.rank / fractions - 1)
          < 2 ^ 53 * 2 ^ (m.rank / fractions - 1) := Nat.mul_lt_mul_of_pos_right hbits hpos
        _ = 2 ^ (52 + (m.rank / fractions - 1) + 1) := by rw [← Nat.pow_add]; congr 1; omega
  rw [scale, Nat.div_one, hlog]
  omega

/-- The subnormal magnitudes have the smallest scale. -/
theorem scale_units_of_lt {m : Magnitude} (h : m.rank < fractions) : scale m.units 1 = 0 := by
  have hlog : Nat.log2 m.rank < 52 := by
    rcases Nat.eq_zero_or_pos m.rank with hzero | hpos
    · rw [hzero]
      decide
    · exact (Nat.log2_lt (by omega)).2 h
  rw [scale, units_of_lt h, Nat.div_one]
  omega

theorem nearestRank_units (m : Magnitude) : nearestRank m.units 1 = m.rank := by
  rw [nearestRank_eq, Nat.one_mul]
  rcases Nat.lt_or_ge m.rank fractions with hlt | hge
  · have hwhole := Decimal.roundedQuotient_mul m.units (d := 1) (by decide)
    rw [Nat.mul_one] at hwhole
    rw [scale_units_of_lt hlt, Nat.pow_zero, hwhole, units_of_lt hlt]
    omega
  · have hone : 1 ≤ m.rank / fractions := (Nat.one_le_div_iff (by decide)).2 hge
    rw [scale_units hge, units_of_le hge, Decimal.roundedQuotient_mul _ (Nat.two_pow_pos _)]
    have hdiv := Nat.div_add_mod m.rank fractions
    have hsplit : (m.rank / fractions - 1) * fractions + fractions =
        fractions * (m.rank / fractions) := by
      rw [← Nat.succ_mul, Nat.succ_eq_add_one, Nat.sub_add_cancel hone, Nat.mul_comm]
    omega

/-- A finite magnitude is the nearest one to its own value. -/
theorem nearest_units (m : Magnitude) : nearest m.units 1 = m := by
  have hle : m.rank ≤ topRank := m.rank_le
  simp only [nearest, ofRank, nearestRank_units, Nat.min_eq_left hle]

end Magnitude

theorem ofNat_eq (n : Nat) : ofNat n = signed false (.nearest (n * unitsPerOne) 1) :=
  rfl

theorem ofNat_zero : ofNat 0 = signed false .zero := by
  rw [ofNat_eq, Nat.zero_mul]
  exact congrArg (signed false) (Magnitude.nearest_units .zero)

/-! ## Products and quotients -/

theorem mul_signed {m n : Magnitude} (hm : m.isFinite) (hn : n.isFinite) (s t : Bool) :
    signed s m * signed t n = signed (s != t) (.nearest (m.units * n.units) unitsPerOne) := by
  show mul _ _ = _
  simp only [mul, hm, hn, Bool.and_self, if_true]

theorem div_signed {m n : Magnitude} (hm : m.isFinite) (hn : n.isFinite) (hrank : n.rank ≠ 0)
    (s t : Bool) :
    signed s m / signed t n = signed (s != t) (.nearest (m.units * unitsPerOne) n.units) := by
  show div _ _ = _
  simp only [div, hm, hn, hrank, Bool.and_self, if_true, if_false]

theorem isFinite_of_mul {m n : Magnitude} {s t : Bool} (h : (signed s m * signed t n).isFinite) :
    m.isFinite ∧ n.isFinite := by
  change (mul _ _).isFinite = true at h
  simp only [mul] at h
  split at h
  · next hboth => exact Bool.and_eq_true_iff.1 hboth
  · split at h
    · cases h
    · cases h

/-- Products of smaller magnitudes stay finite where those of greater ones do. -/
theorem isFinite_mul_of_le {m n m' n' : Magnitude} (hm : m.rank ≤ m'.rank) (hn : n.rank ≤ n'.rank)
    {s t s' t' : Bool} (h : (signed s' m' * signed t' n').isFinite) :
    (signed s m * signed t n).isFinite := by
  obtain ⟨hm', hn'⟩ := isFinite_of_mul h
  have hle {k k' : Magnitude} (hk : k.rank ≤ k'.rank) (hk' : k'.isFinite) : k.isFinite :=
    decide_eq_true (Nat.lt_of_le_of_lt hk (of_decide_eq_true hk'))
  rw [mul_signed hm' hn'] at h
  rw [mul_signed (hle hm hm') (hle hn hn')]
  have hunits := Nat.mul_le_mul (Magnitude.units_mono hm) (Magnitude.units_mono hn)
  exact hle (Magnitude.nearest_mono unitsPerOne_pos unitsPerOne_pos
    (Nat.mul_le_mul_right _ hunits)) h

end Binary64

end CertaintyFactor
