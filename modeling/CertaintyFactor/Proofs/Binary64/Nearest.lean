import CertaintyFactor.Proofs.Binary64.Rounding

/-!
# The nearest magnitude

`Magnitude.nearest` is what its name says: where it is finite, no magnitude is nearer to the
quotient, and another one as near leaves it the even rank (`Magnitude.nearest_isNearest`). On the
scale of the quotient magnitudes are whole multiples of one step, and rounding goes to the nearest
multiple, so it is half a step off at most.
-/

set_option autoImplicit false

namespace CertaintyFactor

/-! ## Whole numbers -/

/-- How far `q` is from `n / d`, in parts of `1 / d`. -/
def distance (q n d : Nat) : Nat :=
  ((q * d : Nat) - n : Int).natAbs

namespace Decimal

/-- Rounding to a whole number is half a one off at most. -/
theorem two_mul_distance_roundedQuotient_le (n : Nat) {d : Nat} (hd : 0 < d) :
    2 * distance (roundedQuotient n d) n d ≤ d := by
  have hmod := Nat.mod_lt n hd
  have hdiv := Nat.div_add_mod' n d
  have hnext : (n / d + 1) * d = n / d * d + d := Nat.succ_mul (n / d) d
  unfold distance roundedQuotient
  cases hcompare : compare (2 * (n % d)) d with
  | lt =>
    have hlt := Nat.compare_eq_lt.1 hcompare
    dsimp only
    omega
  | gt =>
    have hgt := Nat.compare_eq_gt.1 hcompare
    dsimp only
    omega
  | eq =>
    have htie := Nat.compare_eq_eq.1 hcompare
    dsimp only
    rcases Nat.mod_two_eq_zero_or_one (n / d) with heven | hodd
    · rw [heven, Nat.add_zero]
      omega
    · rw [hodd]
      omega

/-- Halfway between two whole numbers the even one is taken. -/
theorem even_roundedQuotient {n d : Nat} (hd : 0 < d)
    (h : 2 * distance (roundedQuotient n d) n d = d) : roundedQuotient n d % 2 = 0 := by
  have hmod := Nat.mod_lt n hd
  have hdiv := Nat.div_add_mod' n d
  have hnext : (n / d + 1) * d = n / d * d + d := Nat.succ_mul (n / d) d
  unfold distance roundedQuotient at h
  unfold roundedQuotient
  cases hcompare : compare (2 * (n % d)) d with
  | lt =>
    have hlt := Nat.compare_eq_lt.1 hcompare
    rw [hcompare] at h
    dsimp only at h
    omega
  | gt =>
    have hgt := Nat.compare_eq_gt.1 hcompare
    rw [hcompare] at h
    dsimp only at h
    omega
  | eq =>
    dsimp only
    omega

/-- Whole numbers are a one apart, so none is nearer than the rounded one, and another one is as
near just if it is half a one off as well. -/
theorem distance_roundedQuotient_le (n : Nat) {d : Nat} (hd : 0 < d) (q : Nat) :
    distance (roundedQuotient n d) n d ≤ distance q n d ∧
      (q ≠ roundedQuotient n d → distance q n d = distance (roundedQuotient n d) n d →
        roundedQuotient n d % 2 = 0) := by
  have hrounded := two_mul_distance_roundedQuotient_le n hd
  have heven := even_roundedQuotient (n := n) hd
  generalize roundedQuotient n d = rounded at hrounded heven ⊢
  by_cases hq : q = rounded
  · rw [hq]
    exact ⟨Nat.le_refl _, fun hne => absurd rfl hne⟩
  have hapart : d ≤ distance q n d + distance rounded n d := by
    unfold distance
    rcases Nat.lt_or_gt_of_ne hq with hlt | hgt
    · have hmul := Nat.mul_le_mul_right d (Nat.succ_le_of_lt hlt)
      rw [Nat.succ_mul] at hmul
      omega
    · have hmul := Nat.mul_le_mul_right d (Nat.succ_le_of_lt hgt)
      rw [Nat.succ_mul] at hmul
      omega
  refine ⟨by omega, fun _ hsame => heven ?_⟩
  omega

/-- Between an even whole number and the next one, halfway goes to the even one. -/
theorem roundedQuotient_halfway {q half : Nat} (hhalf : 0 < half) (heven : q % 2 = 0) :
    roundedQuotient (q * (2 * half) + half) (2 * half) = q := by
  have hstep : 0 < 2 * half := Nat.mul_pos (by decide) hhalf
  have hlt : half < 2 * half := by omega
  have hdiv : (q * (2 * half) + half) / (2 * half) = q := by
    rw [Nat.mul_comm, Nat.mul_add_div hstep, Nat.div_eq_of_lt hlt, Nat.add_zero]
  have hmod : (q * (2 * half) + half) % (2 * half) = half := by
    rw [Nat.mul_comm, Nat.mul_add_mod, Nat.mod_eq_of_lt hlt]
  rw [roundedQuotient, hdiv, hmod, Nat.compare_eq_eq.2 rfl]
  dsimp only
  rw [heven, Nat.add_zero]

end Decimal

namespace Binary64.Magnitude

/-! ## Steps of a scale -/

/-- A rank made of a scale and some of its steps is that many steps in value. -/
theorem units_of_steps {m : Magnitude} {s k : Nat} (hrank : m.rank = s * fractions + k)
    (hlow : 0 < s → fractions ≤ k) (hhigh : k ≤ 2 * fractions) : m.units = k * 2 ^ s := by
  have hpos : 0 < fractions := Nat.two_pow_pos 52
  by_cases hlt : m.rank < fractions
  · have hs : s = 0 := by
      by_contra hs
      have hk := hlow (Nat.pos_of_ne_zero hs)
      omega
    subst hs
    rw [units_of_lt hlt, hrank]
    omega
  · have hk : fractions ≤ k := by
      by_cases hs : 0 < s
      · exact hlow hs
      · obtain rfl : s = 0 := Nat.eq_zero_of_not_pos hs
        omega
    obtain ⟨j, rfl⟩ := Nat.exists_eq_add_of_le hk
    rw [units_of_le (Nat.le_of_not_lt hlt)]
    by_cases hj : j < fractions
    · have hsplit : m.rank = j + (s + 1) * fractions := by rw [hrank, Nat.succ_mul]; omega
      rw [hsplit, Nat.add_mul_mod_self_right, Nat.add_mul_div_right _ _ hpos, Nat.mod_eq_of_lt hj,
        Nat.div_eq_of_lt hj, Nat.zero_add, Nat.add_sub_cancel]
    · -- The last step of a scale is the first one of the next.
      obtain rfl : j = fractions := by omega
      have hsplit : m.rank = (s + 2) * fractions := by rw [hrank, Nat.add_mul]; omega
      rw [hsplit, Nat.mul_mod_left, Nat.mul_div_cancel _ hpos, Nat.add_zero,
        Nat.add_sub_assoc (by decide), Nat.pow_succ', ← Nat.mul_assoc, Nat.mul_two]

/-- A magnitude is a whole number of steps of a scale, or below all that are held on it. -/
theorem units_on_scale (m : Magnitude) (s : Nat) :
    (∃ k, m.units = k * 2 ^ s) ∨ 0 < s ∧ m.units < fractions * 2 ^ s := by
  by_cases hs : s = 0
  · exact .inl ⟨m.units, by rw [hs, Nat.pow_zero, Nat.mul_one]⟩
  by_cases hlt : m.rank < fractions
  · refine .inr ⟨Nat.pos_of_ne_zero hs, ?_⟩
    rw [units_of_lt hlt]
    exact Nat.lt_of_lt_of_le hlt (Nat.le_mul_of_pos_right _ (Nat.two_pow_pos s))
  rw [units_of_le (Nat.le_of_not_lt hlt)]
  generalize m.rank / fractions - 1 = exponent
  have hfraction : m.rank % fractions < fractions := Nat.mod_lt _ (Nat.two_pow_pos 52)
  by_cases hexponent : s ≤ exponent
  · obtain ⟨k, rfl⟩ := Nat.exists_eq_add_of_le hexponent
    refine .inl ⟨(fractions + m.rank % fractions) * 2 ^ k, ?_⟩
    rw [Nat.pow_add, Nat.mul_assoc, Nat.mul_comm (2 ^ s)]
  · refine .inr ⟨Nat.pos_of_ne_zero hs, ?_⟩
    calc (fractions + m.rank % fractions) * 2 ^ exponent
        < fractions * 2 * 2 ^ exponent :=
          Nat.mul_lt_mul_of_pos_right (by omega) (Nat.two_pow_pos exponent)
      _ = fractions * 2 ^ (exponent + 1) := by rw [Nat.mul_assoc, ← Nat.pow_succ']
      _ ≤ fractions * 2 ^ s :=
          Nat.mul_le_mul_left _ (Nat.pow_le_pow_right (by decide) (by omega))

theorem rank_nearest {n d : Nat} (h : nearestRank n d ≤ topRank) :
    (nearest n d).rank =
      scale n d * fractions + Decimal.roundedQuotient n (d * 2 ^ scale n d) :=
  (Nat.min_eq_left h).trans (nearestRank_eq n d)

theorem units_nearest {n d : Nat} (h : nearestRank n d ≤ topRank) :
    (nearest n d).units =
      Decimal.roundedQuotient n (d * 2 ^ scale n d) * 2 ^ scale n d := by
  apply units_of_steps (rank_nearest h)
  · intro hscale
    exact Nat.le_trans (le_div_scale hscale) (Decimal.le_roundedQuotient _ _)
  · have hbits := div_scale_lt n d
    have hrounded := Decimal.roundedQuotient_le n (d * 2 ^ scale n d)
    unfold fractions
    omega

theorem units_inj {m m' : Magnitude} (h : m.units = m'.units) : m = m' := by
  rw [← nearest_units m, ← nearest_units m', h]

/-! ## Whole numbers as magnitudes -/

theorem unitsPerOne_eq : unitsPerOne = 2 ^ 1074 := by
  unfold unitsPerOne
  generalize 1074 = k
  rfl

theorem unitsPerOne_split {k : Nat} (h : 1074 = 52 + k) : unitsPerOne = fractions * 2 ^ k := by
  rw [unitsPerOne_eq, h]
  exact Nat.pow_add 2 52 k

theorem scale_mul_two_pow_le {n : Nat} (hn : n < 2 ^ 53) (k : Nat) : scale (n * 2 ^ k) 1 ≤ k := by
  rw [scale, Nat.div_one]
  rcases Nat.eq_zero_or_pos n with rfl | hpos
  · rw [Nat.zero_mul, Nat.log2_zero]
    exact Nat.zero_le _
  · have hne : n * 2 ^ k ≠ 0 := Nat.mul_ne_zero (Nat.ne_of_gt hpos) (Nat.two_pow_pos k).ne'
    have hlt : n * 2 ^ k < 2 ^ (53 + k) := by
      rw [Nat.pow_add]
      exact Nat.mul_lt_mul_of_pos_right hn (Nat.two_pow_pos k)
    have hlog := (Nat.log2_lt hne).2 hlt
    omega

/-- A whole number of 53 bits, in whatever unit, rounds to itself. -/
theorem roundedQuotient_whole {n : Nat} (hn : n < 2 ^ 53) (k : Nat) :
    Decimal.roundedQuotient (n * 2 ^ k) (1 * 2 ^ scale (n * 2 ^ k) 1) * 2 ^ scale (n * 2 ^ k) 1 =
      n * 2 ^ k := by
  obtain ⟨j, hj⟩ := Nat.exists_eq_add_of_le' (scale_mul_two_pow_le hn k)
  generalize scale (n * 2 ^ k) 1 = s at hj ⊢
  rw [hj, Nat.pow_add, ← Nat.mul_assoc, Nat.one_mul,
    Decimal.roundedQuotient_mul _ (Nat.two_pow_pos s)]

/-- With room above it, a number of 53 bits stays finite. -/
theorem nearestRank_bits_lt {n k : Nat} (hn : n < 2 ^ 53) (hk : k < 2045) :
    nearestRank (n * 2 ^ k) 1 < topRank := by
  have hscale := scale_mul_two_pow_le hn k
  have hbits := div_scale_lt (n * 2 ^ k) 1
  have hrounded := Decimal.roundedQuotient_le (n * 2 ^ k) (1 * 2 ^ scale (n * 2 ^ k) 1)
  rw [nearestRank_eq]
  generalize Decimal.roundedQuotient _ _ = rounded at hrounded ⊢
  generalize scale (n * 2 ^ k) 1 = s at hscale hbits hrounded ⊢
  have hbelow : s * fractions ≤ 2044 * fractions := Nat.mul_le_mul_right _ (by omega)
  unfold topRank fractions at *
  omega

theorem isFinite_bits {n k : Nat} (hn : n < 2 ^ 53) (hk : k < 2045) :
    (nearest (n * 2 ^ k) 1).isFinite :=
  decide_eq_true (Nat.lt_of_le_of_lt (Nat.min_le_left _ _) (nearestRank_bits_lt hn hk))

theorem units_bits {n k : Nat} (hn : n < 2 ^ 53) (hk : k < 2045) :
    (nearest (n * 2 ^ k) 1).units = n * 2 ^ k := by
  rw [units_nearest (Nat.le_of_lt (nearestRank_bits_lt hn hk))]
  exact roundedQuotient_whole hn k

theorem nearestRank_whole_lt {n : Nat} (hn : n < 2 ^ 53) :
    nearestRank (n * unitsPerOne) 1 < topRank := by
  rw [unitsPerOne_eq]
  exact nearestRank_bits_lt hn (by decide)

theorem isFinite_whole {n : Nat} (hn : n < 2 ^ 53) :
    (nearest (n * unitsPerOne) 1).isFinite := by
  rw [unitsPerOne_eq]
  exact isFinite_bits hn (by decide)

theorem units_whole {n : Nat} (hn : n < 2 ^ 53) :
    (nearest (n * unitsPerOne) 1).units = n * unitsPerOne := by
  rw [unitsPerOne_eq]
  exact units_bits hn (by decide)

/-! ## Halfway between two magnitudes -/

theorem scale_of_bits {q s r : Nat} (hlow : fractions ≤ q) (hhigh : q < 2 ^ 53) (hr : r < 2 ^ s) :
    scale (q * 2 ^ s + r) 1 = s := by
  have hpos := Nat.two_pow_pos s
  have hlower : 2 ^ 52 * 2 ^ s ≤ q * 2 ^ s := Nat.mul_le_mul_right _ hlow
  have hupper : (q + 1) * 2 ^ s ≤ 2 ^ 53 * 2 ^ s := Nat.mul_le_mul_right _ hhigh
  rw [Nat.succ_mul] at hupper
  have hlog : Nat.log2 (q * 2 ^ s + r) = 52 + s := by
    rw [Nat.log2_eq_iff (by omega), Nat.add_right_comm, Nat.pow_add, Nat.pow_add]
    omega
  rw [scale, Nat.div_one, hlog]
  omega

/-- Halfway from a magnitude of even rank to the next one, rounding goes back. -/
theorem nearest_halfway {q : Nat} (s : Nat) (hlow : fractions ≤ q) (hhigh : q < 2 ^ 53)
    (heven : q % 2 = 0) : nearest (q * 2 ^ (s + 1) + 2 ^ s) 1 = nearest (q * 2 ^ (s + 1)) 1 := by
  have hhalf : 2 ^ s < 2 ^ (s + 1) := Nat.pow_lt_pow_right (by decide) (Nat.lt_succ_self s)
  have hscale := scale_of_bits hlow hhigh hhalf
  have hscale' := scale_of_bits hlow hhigh (Nat.two_pow_pos (s + 1))
  rw [Nat.add_zero] at hscale'
  have hrank : nearestRank (q * 2 ^ (s + 1) + 2 ^ s) 1 = nearestRank (q * 2 ^ (s + 1)) 1 := by
    rw [nearestRank_eq, nearestRank_eq, hscale, hscale', Nat.one_mul,
      Decimal.roundedQuotient_mul q (Nat.two_pow_pos _), Nat.pow_succ',
      Decimal.roundedQuotient_halfway (Nat.two_pow_pos s) heven]
  rw [nearest, nearest, hrank]

/-! ## Distances -/

/-- Counted in steps of a scale, a distance is the same. -/
theorem distance_mul_pow (k n d s : Nat) : distance (k * 2 ^ s) n d = distance k n (d * 2 ^ s) := by
  rw [distance, distance, Nat.mul_assoc, Nat.mul_comm d]

/-- Rounding is half a step of the scale off at most. -/
theorem two_mul_distance_nearest_le {n d : Nat} (hd : 0 < d) (h : nearestRank n d ≤ topRank) :
    2 * distance (nearest n d).units n d ≤ d * 2 ^ scale n d := by
  rw [units_nearest h, distance_mul_pow]
  exact Decimal.two_mul_distance_roundedQuotient_le n (Nat.mul_pos hd (Nat.two_pow_pos _))

/-- No magnitude is nearer to a quotient than the one it rounds to, and if another one is as near,
then it rounds to the one of even rank. -/
theorem nearest_isNearest {n d : Nat} (hd : 0 < d) (h : (nearest n d).isFinite) (m : Magnitude) :
    distance (nearest n d).units n d ≤ distance m.units n d ∧
      (m ≠ nearest n d → distance m.units n d = distance (nearest n d).units n d →
        (nearest n d).rank % 2 = 0) := by
  have htop : nearestRank n d ≤ topRank := by
    have hlt : min (nearestRank n d) topRank < topRank := of_decide_eq_true h
    omega
  have hstep : 0 < d * 2 ^ scale n d := Nat.mul_pos hd (Nat.two_pow_pos _)
  have hunits := units_nearest htop
  rw [hunits, distance_mul_pow]
  rcases units_on_scale m (scale n d) with ⟨k, hk⟩ | ⟨hscale, hlt⟩
  · -- On the scale of the quotient it is whole numbers of steps that are rounded.
    obtain ⟨hle, heven⟩ := Decimal.distance_roundedQuotient_le n hstep k
    rw [hk, distance_mul_pow]
    refine ⟨hle, fun hne hsame => ?_⟩
    have hk' : k ≠ Decimal.roundedQuotient n (d * 2 ^ scale n d) := by
      intro heq
      apply hne
      apply units_inj
      rw [hk, hunits, heq]
    rw [rank_nearest htop, Nat.add_mod, even_scale, heven hk' hsame]
  · -- Below the scale, the first magnitude on it is nearer.
    have hfirst : fractions * (d * 2 ^ scale n d) ≤ n :=
      (Nat.le_div_iff_mul_le hstep).1 (le_div_scale hscale)
    have hbelow : distance fractions n (d * 2 ^ scale n d) < distance m.units n d := by
      have hmul := Nat.mul_lt_mul_of_pos_right hlt hd
      have hassoc : fractions * 2 ^ scale n d * d = fractions * (d * 2 ^ scale n d) := by
        rw [Nat.mul_assoc, Nat.mul_comm d]
      unfold distance
      omega
    have hle := (Decimal.distance_roundedQuotient_le n hstep fractions).1
    exact ⟨by omega, fun _ hsame => by omega⟩

end Binary64.Magnitude

end CertaintyFactor
