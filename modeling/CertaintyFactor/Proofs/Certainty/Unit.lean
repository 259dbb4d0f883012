import CertaintyFactor.Certainty
import CertaintyFactor.Proofs.Binary64.Nearest
import CertaintyFactor.Proofs.Binary64.Order

/-!
# Certainties stay in the unit interval

In exact arithmetic `a + b * (1 - a)` is in `[0, 1]` when `a` and `b` are. Here the difference, the
product and the sum are each rounded, and still nothing leaves the interval. Rounding the difference
may add half a step to it, which brings the sum past one by no more than half a step, and the tie
goes back to one.
-/

set_option autoImplicit false

namespace CertaintyFactor.Binary64

/-! ## Around one -/

namespace Magnitude

/-- The magnitude of one. -/
def one : Magnitude :=
  nearest unitsPerOne 1

theorem units_one : one.units = unitsPerOne := by
  have hunits := units_whole (n := 1) (by decide)
  rwa [Nat.one_mul] at hunits

theorem isFinite_one : one.isFinite := by
  have hfinite := isFinite_whole (n := 1) (by decide)
  rwa [Nat.one_mul] at hfinite

theorem nearestRank_one_lt : nearestRank unitsPerOne 1 < topRank := by
  have hlt := nearestRank_whole_lt (n := 1) (by decide)
  rwa [Nat.one_mul] at hlt

theorem scale_one : scale unitsPerOne 1 = 1022 := by
  rw [scale, Nat.div_one, unitsPerOne_eq, Nat.log2_two_pow]

/-- Half a step past one, rounding goes back to one. -/
theorem nearest_half_past_one : nearest (unitsPerOne + 2 ^ 1021) 1 = one := by
  rw [one, unitsPerOne_split (k := 1021 + 1) (by decide)]
  exact nearest_halfway 1021 (Nat.le_refl _) (by decide) (by decide)

theorem units_le_of_le_one {m : Magnitude} (h : m.rank ≤ one.rank) : m.units ≤ unitsPerOne := by
  rw [← units_one]
  exact units_mono h

theorem nearest_le_one {n : Nat} (h : n ≤ unitsPerOne) : (nearest n 1).rank ≤ one.rank := by
  have hle : n * 1 ≤ unitsPerOne * 1 := Nat.mul_le_mul_right 1 h
  exact nearest_mono (by decide) (by decide) hle

/-- A product with a number up to one is no greater than the other factor. -/
theorem nearest_mul_le {m n : Magnitude} (hn : n.rank ≤ one.rank) :
    (nearest (n.units * m.units) unitsPerOne).rank ≤ m.rank := by
  have hproduct : n.units * m.units * 1 ≤ m.units * unitsPerOne := by
    rw [Nat.mul_one, Nat.mul_comm]
    exact Nat.mul_le_mul_left _ (units_le_of_le_one hn)
  have hle := nearest_mono unitsPerOne_pos (by decide) hproduct
  rwa [nearest_units] at hle

/-- A sum is no smaller than its first term. -/
theorem le_nearest_add (m n : Magnitude) : m.rank ≤ (nearest (m.units + n.units) 1).rank := by
  have hle : (nearest m.units 1).rank ≤ (nearest (m.units + n.units) 1).rank := by
    apply nearest_mono (by decide) (by decide)
    rw [Nat.mul_one, Nat.mul_one]
    exact Nat.le_add_right _ _
  rwa [nearest_units] at hle

/-- What is left to one, rounded, is half a step too much at most. -/
theorem units_nearest_one_sub_le {n : Nat} (hn : n ≤ unitsPerOne) :
    (nearest n 1).units ≤ n + 2 ^ 1021 := by
  have htop : nearestRank n 1 ≤ topRank := by
    have hle : n * 1 ≤ unitsPerOne * 1 := Nat.mul_le_mul_right 1 hn
    exact Nat.le_trans (nearestRank_mono (by decide) (by decide) hle)
      (Nat.le_of_lt nearestRank_one_lt)
  have hscale : scale n 1 ≤ 1022 := by
    rw [← scale_one]
    apply scale_mono
    rwa [Nat.div_one, Nat.div_one]
  have hdistance := two_mul_distance_nearest_le (by decide) htop
  have hdouble {k s : Nat} (h : s ≤ k + 1) : 2 ^ s ≤ 2 * 2 ^ k := by
    rw [← Nat.pow_succ']
    exact Nat.pow_le_pow_right (by decide) h
  have hstep := hdouble (k := 1021) hscale
  rw [distance, Nat.mul_one, Nat.one_mul] at hdistance
  generalize 2 ^ 1021 = half at hstep ⊢
  generalize 2 ^ scale n 1 = step at hstep hdistance
  omega

/-- A number up to one, added to what is left to one, does not come past one. -/
theorem nearest_add_one_sub_le {m p : Magnitude} (hm : m.rank ≤ one.rank)
    (hp : p.rank ≤ (nearest (unitsPerOne - m.units) 1).rank) :
    (nearest (m.units + p.units) 1).rank ≤ one.rank := by
  have hunits := units_le_of_le_one hm
  have hleft : p.units ≤ unitsPerOne - m.units + 2 ^ 1021 :=
    Nat.le_trans (units_mono hp) (units_nearest_one_sub_le (Nat.sub_le _ _))
  rw [← nearest_half_past_one]
  apply nearest_mono (by decide) (by decide)
  generalize 2 ^ 1021 = half at hleft ⊢
  generalize unitsPerOne = u at hunits hleft ⊢
  omega

end Magnitude

/-! ## Numbers that are not below zero -/

/-- The number has the magnitude `m` and is not below zero; a zero may have either sign. -/
def HasSize (x : Binary64) (m : Magnitude) : Prop :=
  ∃ s, x = signed s m ∧ (s = true → m.rank = 0)

theorem hasSize_ofNat (n : Nat) : (ofNat n).HasSize (.nearest (n * unitsPerOne) 1) :=
  ⟨false, ofNat_eq n, nofun⟩

theorem zero_hasSize : (0 : Binary64).HasSize (.nearest 0 1) := by
  have hsize := hasSize_ofNat 0
  rwa [Nat.zero_mul] at hsize

theorem one_hasSize : (1 : Binary64).HasSize .one := by
  have hsize := hasSize_ofNat 1
  rwa [Nat.one_mul] at hsize

theorem place_of_sign {s : Bool} {m : Magnitude} (h : s = true → m.rank = 0) :
    place s m = m.rank := by
  cases s with
  | false => rfl
  | true => simp [place, h rfl]

theorem toUnits_of_sign {s : Bool} {m : Magnitude} (h : s = true → m.rank = 0) :
    toUnits s m = m.units := by
  cases s with
  | false => rfl
  | true => simp [toUnits, Magnitude.units_zero (h rfl)]

theorem add_signed {m n : Magnitude} (hm : m.isFinite) (hn : n.isFinite) (s t : Bool) :
    signed s m + signed t n = ofUnits (s && t) (toUnits s m + toUnits t n) := by
  show add _ _ = _
  rw [add, hm, hn, Bool.and_self, if_pos rfl]

theorem sub_signed (x : Binary64) (s : Bool) (m : Magnitude) :
    x - signed s m = x + signed (!s) m :=
  rfl

theorem hasSize_ofUnits (zeroSign : Bool) (u : Nat) :
    (ofUnits zeroSign u).HasSize (.nearest u 1) := by
  cases u with
  | zero =>
    have hzero : Magnitude.nearest 0 1 = .zero := Magnitude.nearest_units .zero
    rw [hzero]
    exact ⟨zeroSign, rfl, fun _ => rfl⟩
  | succ u => exact ⟨false, rfl, nofun⟩

namespace HasSize

variable {x y : Binary64} {m n : Magnitude}

theorem le_iff (hx : x.HasSize m) (hy : y.HasSize n) : x.le y ↔ m.rank ≤ n.rank := by
  obtain ⟨s, rfl, hs⟩ := hx
  obtain ⟨t, rfl, ht⟩ := hy
  rw [le_signed_iff, place_of_sign hs, place_of_sign ht, Int.ofNat_le]

theorem isFinite_iff (hx : x.HasSize m) : x.isFinite ↔ m.isFinite := by
  obtain ⟨s, rfl, -⟩ := hx
  rfl

theorem add (hx : x.HasSize m) (hy : y.HasSize n) (hm : m.isFinite) (hn : n.isFinite) :
    (x + y).HasSize (.nearest (m.units + n.units) 1) := by
  obtain ⟨s, rfl, hs⟩ := hx
  obtain ⟨t, rfl, ht⟩ := hy
  rw [add_signed hm hn, toUnits_of_sign hs, toUnits_of_sign ht]
  exact hasSize_ofUnits _ _

theorem one_sub (hx : x.HasSize m) (hm : m.rank ≤ Magnitude.one.rank) :
    (1 - x).HasSize (.nearest (unitsPerOne - m.units) 1) := by
  obtain ⟨s, rfl, hs⟩ := hx
  obtain ⟨t, hone, ht⟩ := one_hasSize
  have hfinite : m.isFinite := Magnitude.isFinite_of_le hm Magnitude.isFinite_one
  have hneg : toUnits (!s) m = -m.units := by
    cases s with
    | false => rfl
    | true => simp [toUnits, Magnitude.units_zero (hs rfl)]
  have hsum : (unitsPerOne : Int) + -m.units = (unitsPerOne - m.units : Nat) := by
    have hunits := Magnitude.units_le_of_le_one hm
    generalize unitsPerOne = u at hunits ⊢
    omega
  rw [hone, sub_signed, add_signed Magnitude.isFinite_one hfinite, toUnits_of_sign ht, hneg,
    Magnitude.units_one, hsum]
  exact hasSize_ofUnits _ _

theorem mul (hx : x.HasSize m) (hy : y.HasSize n) (hm : m.isFinite) (hn : n.isFinite) :
    (x * y).HasSize (.nearest (m.units * n.units) unitsPerOne) := by
  obtain ⟨s, rfl, hs⟩ := hx
  obtain ⟨t, rfl, ht⟩ := hy
  refine ⟨s != t, mul_signed hm hn s t, fun hsign => ?_⟩
  -- A product is negative only if one of its factors is a negative zero.
  have hproduct : m.units * n.units = 0 := by
    cases s with
    | true => rw [Magnitude.units_zero (hs rfl), Nat.zero_mul]
    | false => rw [Magnitude.units_zero (ht (by simpa using hsign)), Nat.mul_zero]
  rw [hproduct]
  exact Magnitude.nearest_zero unitsPerOne_pos

end HasSize

/-! ## The unit interval -/

theorem within_iff {x : Binary64} :
    x.Within 0 1 ↔ ∃ m, x.HasSize m ∧ m.rank ≤ Magnitude.one.rank := by
  constructor
  · rintro ⟨hfinite, hlow, hhigh⟩
    cases x with
    | nan => cases hfinite
    | signed s m =>
      have hsign : s = true → m.rank = 0 := by
        rintro rfl
        obtain ⟨t, hzero, ht⟩ := zero_hasSize
        rw [hzero, le_signed_iff, place_of_sign ht] at hlow
        simp only [place, if_true] at hlow
        omega
      have hsize : (signed s m).HasSize m := ⟨s, rfl, hsign⟩
      exact ⟨m, hsize, (hsize.le_iff one_hasSize).1 hhigh⟩
  · rintro ⟨m, hsize, hm⟩
    refine ⟨?_, ?_, ?_⟩
    · rw [hsize.isFinite_iff]
      exact Magnitude.isFinite_of_le hm Magnitude.isFinite_one
    · exact (zero_hasSize.le_iff hsize).2 (Nat.zero_le _)
    · exact (hsize.le_iff one_hasSize).2 hm

section

variable {a b : Binary64}

/-- What is left of a certainty to one. -/
theorem one_sub_within (ha : a.Within 0 1) : (1 - a).Within 0 1 := by
  obtain ⟨m, ha, hm⟩ := within_iff.1 ha
  exact within_iff.2 ⟨_, ha.one_sub hm, Magnitude.nearest_le_one (Nat.sub_le _ _)⟩

theorem mul_within (ha : a.Within 0 1) (hb : b.Within 0 1) : (a * b).Within 0 1 := by
  obtain ⟨m, ha, hm⟩ := within_iff.1 ha
  obtain ⟨n, hb, hn⟩ := within_iff.1 hb
  have hfinite {k : Magnitude} (hk : k.rank ≤ Magnitude.one.rank) : k.isFinite :=
    Magnitude.isFinite_of_le hk Magnitude.isFinite_one
  exact within_iff.2 ⟨_, ha.mul hb (hfinite hm) (hfinite hn),
    Nat.le_trans (Magnitude.nearest_mul_le hm) hn⟩

/-- Two certainties in the unit interval combine to one in it that is no smaller than the first. -/
theorem combine_within (ha : a.Within 0 1) (hb : b.Within 0 1) :
    (combine a b).Within 0 1 ∧ a.le (combine a b) := by
  obtain ⟨m, ha, hm⟩ := within_iff.1 ha
  obtain ⟨n, hb, hn⟩ := within_iff.1 hb
  have hfinite {k : Magnitude} (hk : k.rank ≤ Magnitude.one.rank) : k.isFinite :=
    Magnitude.isFinite_of_le hk Magnitude.isFinite_one
  have hleft := ha.one_sub hm
  have hleft_le : (Magnitude.nearest (unitsPerOne - m.units) 1).rank ≤ Magnitude.one.rank :=
    Magnitude.nearest_le_one (Nat.sub_le _ _)
  have hincrease := hb.mul hleft (hfinite hn) (hfinite hleft_le)
  have hincrease_le := Magnitude.nearest_mul_le
    (m := .nearest (unitsPerOne - m.units) 1) hn
  have hsum := ha.add hincrease (hfinite hm) (hfinite (Nat.le_trans hincrease_le hleft_le))
  constructor
  · exact within_iff.2 ⟨_, hsum, Magnitude.nearest_add_one_sub_le hm hincrease_le⟩
  · exact (ha.le_iff hsum).2 (Magnitude.le_nearest_add _ _)

theorem percent_within (ha : a.Within 0 1) : 0 ≤ a.percent ∧ a.percent ≤ 100 := by
  have hzero : (0 : Binary64).percent = 0 := percent_ofNat (n := 0) (by decide)
  have hone : (1 : Binary64).percent = 100 := percent_ofNat (n := 1) (by decide)
  constructor
  · rw [← hzero]
    exact percent_mono ha.2.1
  · rw [← hone]
    exact percent_mono ha.2.2

end

end CertaintyFactor.Binary64
