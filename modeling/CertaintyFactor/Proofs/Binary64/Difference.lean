import CertaintyFactor.Proofs.Certainty.Unit

/-!
# Differences and nearness

The difference of two magnitudes neither of which is more than twice the other is a magnitude
itself, so it is not rounded (`Magnitude.units_nearest_sub`). Hence comparing a computed difference
with a tolerance decides how far apart the exact values are, wherever the number compared with is at
least twice the tolerance (`abs_sub_lt_iff`): what is farther away than that may be rounded, but not
to less than the tolerance.
-/

set_option autoImplicit false

namespace CertaintyFactor.Binary64

/-! ## Differences that are not rounded -/

namespace Magnitude

/-- A magnitude is a whole number of 53 bits in some unit, and greater ones are whole numbers in
that unit. -/
theorem exists_units_eq (m : Magnitude) :
    ∃ q s, q < 2 ^ 53 ∧ m.units = q * 2 ^ s ∧
      ∀ n : Magnitude, m.units ≤ n.units → ∃ k, n.units = k * 2 ^ s := by
  rcases Nat.lt_or_ge m.rank fractions with hlt | hge
  · refine ⟨m.units, 0, ?_, by rw [Nat.pow_zero, Nat.mul_one], fun n _ => ⟨n.units, by
      rw [Nat.pow_zero, Nat.mul_one]⟩⟩
    rw [units_of_lt hlt]
    exact Nat.lt_trans hlt (by decide)
  · have hfraction : m.rank % fractions < fractions := Nat.mod_lt _ (by decide)
    refine ⟨fractions + m.rank % fractions, m.rank / fractions - 1, ?_, units_of_le hge,
      fun n hn => ?_⟩
    · unfold fractions at hfraction ⊢
      omega
    · rcases units_on_scale n (m.rank / fractions - 1) with hscale | ⟨-, hbelow⟩
      · exact hscale
      · rw [units_of_le hge] at hn
        have hfirst := Nat.mul_le_mul_right (2 ^ (m.rank / fractions - 1))
          (Nat.le_add_right fractions (m.rank % fractions))
        omega

theorem units_nearest_sub {m n : Magnitude} (hle : m.units ≤ n.units)
    (hdouble : n.units ≤ 2 * m.units) :
    (nearest (n.units - m.units) 1).units = n.units - m.units := by
  obtain ⟨q, s, hq, hm, hgreater⟩ := exists_units_eq m
  obtain ⟨k, hn⟩ := hgreater n hle
  have hsub : n.units - m.units = (k - q) * 2 ^ s := by rw [hm, hn, Nat.sub_mul]
  have hk : k ≤ 2 * q := by
    rw [hm, hn, ← Nat.mul_assoc] at hdouble
    exact Nat.le_of_mul_le_mul_right hdouble (Nat.two_pow_pos s)
  -- The difference is no greater than `m`, so it is finite and has 53 bits as well.
  have hbits : k - q < 2 ^ 53 := by omega
  have htop : nearestRank (n.units - m.units) 1 ≤ topRank := by
    have hsmaller : (n.units - m.units) * 1 ≤ m.units * 1 := by omega
    refine Nat.le_trans (nearestRank_mono (by decide) (by decide) hsmaller) ?_
    rw [nearestRank_units]
    exact m.rank_le
  rw [units_nearest htop, hsub]
  exact roundedQuotient_whole hbits s

end Magnitude

/-! ## Exact values -/

/-- The value of a finite number in units of `2 ^ -1074`. -/
def units? : Binary64 → Option Int
  | .nan => none
  | .signed s m => if m.isFinite then some (toUnits s m) else none

/-- The numbers are finite, and the exact value of `x` is less than `t` away from that of `c`. -/
def IsNear (x c t : Binary64) : Prop :=
  ∃ u v w, x.units? = some u ∧ c.units? = some v ∧ t.units? = some w ∧ |u - v| < w

theorem units?_eq_some_iff {x : Binary64} {u : Int} :
    x.units? = some u ↔ ∃ s m, x = signed s m ∧ m.isFinite ∧ toUnits s m = u := by
  cases x with
  | nan => simp [units?]
  | signed s m => simp [units?]

theorem exists_signed_of_isFinite {x : Binary64} (h : x.isFinite) :
    ∃ s m, x = signed s m ∧ m.isFinite := by
  cases x with
  | nan => cases h
  | signed s m => exact ⟨s, m, rfl, h⟩

theorem units?_signed {s : Bool} {m : Magnitude} (hm : m.isFinite) :
    (signed s m).units? = some (toUnits s m) :=
  if_pos hm

/-- A number above zero has no sign. -/
theorem exists_of_units?_pos {x : Binary64} {u : Int} (h : x.units? = some u) (hpos : 0 < u) :
    ∃ m : Magnitude, x = signed false m ∧ m.isFinite ∧ u = m.units := by
  obtain ⟨s, m, rfl, hm, rfl⟩ := units?_eq_some_iff.1 h
  cases s with
  | false => exact ⟨m, rfl, hm, rfl⟩
  | true =>
    rw [toUnits, if_pos rfl] at hpos
    omega

theorem IsNear.isFinite {x c t : Binary64} (h : x.IsNear c t) : x.isFinite := by
  obtain ⟨u, -, -, hu, -⟩ := h
  obtain ⟨s, m, rfl, hm, -⟩ := units?_eq_some_iff.1 hu
  exact hm

theorem isNear_signed_iff {m n k : Magnitude} (hm : m.isFinite) (hn : n.isFinite)
    (hk : k.isFinite) {s t : Bool} : (signed s m).IsNear (signed t n) (signed false k) ↔
      (toUnits t n - toUnits s m).natAbs < k.units := by
  have htoUnits : toUnits false k = k.units := rfl
  constructor
  · rintro ⟨u, v, w, hu, hv, hw, hnear⟩
    rw [units?_signed hm, Option.some.injEq] at hu
    rw [units?_signed hn, Option.some.injEq] at hv
    rw [units?_signed hk, Option.some.injEq, htoUnits] at hw
    rw [← hu, ← hv, ← hw, Int.abs_eq_natAbs] at hnear
    omega
  · intro h
    refine ⟨_, _, _, units?_signed hm, units?_signed hn, units?_signed hk, ?_⟩
    rw [Int.abs_eq_natAbs, htoUnits]
    omega

theorem isNear_self {c t : Binary64} {v w : Int} (hc : c.units? = some v) (ht : t.units? = some w)
    (hw : 0 < w) : c.IsNear c t :=
  ⟨v, v, w, hc, hc, ht, by rwa [sub_self, abs_zero]⟩

/-! ## Distances compared with a tolerance -/

theorem toUnits_not (s : Bool) (m : Magnitude) : toUnits (!s) m = -toUnits s m := by
  cases s with
  | false => rfl
  | true => exact (Int.neg_neg _).symm

theorem abs_ofUnits (zeroSign : Bool) (u : Int) :
    (ofUnits zeroSign u).abs = signed false (.nearest u.natAbs 1) := by
  by_cases hu : u = 0
  · rw [ofUnits, if_pos hu, hu]
    exact congrArg (signed false) (Magnitude.nearest_units .zero).symm
  · rw [ofUnits, if_neg hu]
    rfl

theorem abs_sub_signed {m n : Magnitude} (hm : m.isFinite) (hn : n.isFinite) (s t : Bool) :
    (signed t n - signed s m).abs =
      signed false (.nearest (toUnits t n - toUnits s m).natAbs 1) := by
  rw [sub_signed, add_signed hn hm, abs_ofUnits, toUnits_not, ← Int.sub_eq_add_neg]

theorem lt_signed_iff {m n : Magnitude} :
    (signed false m).lt (signed false n) ↔ m.rank < n.rank := by
  simp [lt, place?]

/-- A computed difference is below a tolerance only if both numbers are finite. -/
theorem isFinite_of_abs_sub_lt {n : Magnitude} (hn : n.isFinite) {x t : Binary64}
    (h : (signed false n - x).abs.lt t) : x.isFinite := by
  cases x with
  | nan => exact absurd h Bool.false_ne_true
  | signed s m =>
    by_contra hm
    have hsub : signed false n - signed s m = signed (!s) m := by
      rw [sub_signed]
      show add _ _ = _
      have hm' : m.isFinite = false := by simpa [isFinite] using hm
      simp [add, hn, hm']
    have htop : ¬ m.rank < topRank := fun hlt => hm (decide_eq_true hlt)
    rw [hsub] at h
    cases t with
    | nan => exact absurd h Bool.false_ne_true
    | signed t k =>
      have hk := k.rank_le
      cases t <;> simp [abs, lt, place?] at h <;> omega

/-- Less than a tolerance away from a number at least twice as large, differences are exact. -/
theorem units_nearest_distance {m n : Magnitude} {s : Bool} {w : Nat} (hroom : 2 * w ≤ n.units)
    (hnear : (toUnits false n - toUnits s m).natAbs < w) :
    (Magnitude.nearest (toUnits false n - toUnits s m).natAbs 1).units =
      (toUnits false n - toUnits s m).natAbs := by
  cases s with
  | true =>
    simp only [toUnits, if_true, Bool.false_eq_true, if_false] at hnear
    omega
  | false =>
    simp only [toUnits, Bool.false_eq_true, if_false] at hnear ⊢
    rcases Nat.le_total m.units n.units with hle | hle
    · have hdistance : ((n.units : Int) - m.units).natAbs = n.units - m.units := by omega
      rw [hdistance]
      exact Magnitude.units_nearest_sub hle (by omega)
    · have hdistance : ((n.units : Int) - m.units).natAbs = m.units - n.units := by omega
      rw [hdistance]
      exact Magnitude.units_nearest_sub hle (by omega)

/-- Whether a computed difference is below a tolerance depends on the exact values only. -/
theorem abs_sub_lt_iff {c t : Binary64} {v w : Int} (hc : c.units? = some v)
    (ht : t.units? = some w) (hw : 0 < w) (hroom : 2 * w ≤ v) (x : Binary64) :
    (c - x).abs.lt t ↔ x.IsNear c t := by
  obtain ⟨n, rfl, hn, rfl⟩ := exists_of_units?_pos hc (by omega)
  obtain ⟨k, rfl, hk, rfl⟩ := exists_of_units?_pos ht hw
  have hroom' : 2 * k.units ≤ n.units := by omega
  by_cases hx : x.isFinite
  · obtain ⟨s, m, rfl, hm⟩ := exists_signed_of_isFinite hx
    rw [abs_sub_signed hm hn, lt_signed_iff, isNear_signed_iff hm hn hk]
    constructor
    · -- Rounding keeps the order, and the tolerance is not rounded.
      intro h
      by_contra hfar
      have hle : k.units * 1 ≤ (toUnits false n - toUnits s m).natAbs * 1 := by omega
      have hrank := Magnitude.nearest_mono (by decide) (by decide) hle
      rw [Magnitude.nearest_units] at hrank
      omega
    · intro h
      by_contra hfar
      have hunits := Magnitude.units_mono (Nat.le_of_not_lt hfar)
      rw [units_nearest_distance hroom' h] at hunits
      omega
  · exact iff_of_false (fun h => hx (isFinite_of_abs_sub_lt hn h)) fun h => hx h.isFinite

end CertaintyFactor.Binary64
