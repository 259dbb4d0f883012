import CertaintyFactor.Json.Number
import CertaintyFactor.Proofs.Decimal.Shortest
import CertaintyFactor.Proofs.Json.Reader

/-!
# Which numbers are in range

A number read from a text is rounded more than once, so one close below the largest number may end
past it, which is an error. `quick?_isSome` says how far a number may go to be read for certain, and
`shortest_le_rangeLimit` that the shortest digits of every finite magnitude but the largest keep
within that.
-/

set_option autoImplicit false

namespace CertaintyFactor.Json.Number

open Reader Binary64

/-- The number that a significand and a power of ten are read as, if it is in range. -/
def quick? (negative : Bool) (significand : Nat) (exponent : Int) : Option Binary64 :=
  ((ofParts negative significand exponent).read? []).map (·.1)

/-- Working out a number takes nothing off the text. -/
theorem read?_ofParts (negative : Bool) (significand : Nat) (exponent : Int) (rest : List Char) :
    (ofParts negative significand exponent).read? rest =
      (quick? negative significand exponent).map (·, rest) := by
  unfold quick? ofParts
  cases exponent with
  | negSucc e => rfl
  | ofNat e =>
    dsimp only
    split
    · split <;> rfl
    · split <;> rfl

/-- A whole number up to here is in range with any power of ten in it drawn out. It lies halfway
between the two largest numbers but one. -/
def rangeLimit : Nat :=
  Nat.pow 2 1024 - 3 * Nat.pow 2 970

theorem rangeLimit_bounds :
    maxSignificand * 10 ^ 288 ≤ rangeLimit ∧ rangeLimit < 10 ^ (maxPower + 1) := by
  decide +kernel

theorem maxSignificand_le_rangeLimit : maxSignificand ≤ rangeLimit := by
  have h := rangeLimit_bounds.1
  generalize 288 = e at h
  exact Nat.le_trans (Nat.le_mul_of_pos_right _ (Nat.pow_pos (by decide))) h

theorem power_eq {e : Nat} (he : e ≤ maxPower) :
    power e = .signed false (.nearest (10 ^ e * unitsPerOne) 1) := by
  have hplaces : places 1 e = e + 1 := by
    have hone : (Decimal.toDigits 1).length = 1 := rfl
    simp only [places, hone]
    omega
  have hneg : (-(e : Int)).toNat = 0 := by omega
  simp only [maxPower] at he
  rw [power, ofDecimal_eq_ofRatio (by decide) (by rw [hplaces]; simp only [decimalCeiling]; omega)
    (by rw [hplaces]; simp only [decimalFloor]; omega), Int.toNat_natCast, hneg, Nat.pow_zero,
    Nat.one_mul]
  rfl

/-- A smaller significand with a smaller power of ten is in range as well. -/
theorem isFinite_ofNat_mul_power {n n' e e' : Nat} (hn : n ≤ n') (he : e ≤ e')
    (he' : e' ≤ maxPower) (h : (ofNat n' * power e').isFinite) : (ofNat n * power e).isFinite := by
  rw [ofNat_eq, power_eq he'] at h
  rw [ofNat_eq, power_eq (Nat.le_trans he he')]
  have hpower : 10 ^ e ≤ 10 ^ e' := Nat.pow_le_pow_right (by decide) he
  refine isFinite_mul_of_le ?_ ?_ h
  · exact Magnitude.nearest_mono Nat.one_pos Nat.one_pos
      (Nat.mul_le_mul_right 1 (Nat.mul_le_mul_right _ hn))
  · exact Magnitude.nearest_mono Nat.one_pos Nat.one_pos
      (Nat.mul_le_mul_right 1 (Nat.mul_le_mul_right _ hpower))

/-- The largest significands that keep within the limit stay in range after rounding. Up to the
power 288 all significands do. -/
theorem isFinite_rangeLimit : ∀ e ≤ maxPower, 288 ≤ e →
    (ofNat (min maxSignificand (rangeLimit / 10 ^ e)) * power e).isFinite := by
  have hall : ∀ k < 21, (ofNat (min maxSignificand (rangeLimit / 10 ^ (288 + k))) *
      power (288 + k)).isFinite := by
    decide +kernel
  intro e he hlow
  have h := hall (e - 288) (by simp only [maxPower] at he; omega)
  rwa [Nat.add_sub_cancel' hlow] at h

theorem isFinite_of_le_rangeLimit {n e : Nat} (hn : n ≤ maxSignificand) (he : e ≤ maxPower)
    (h : n * 10 ^ e ≤ rangeLimit) : (ofNat n * power e).isFinite := by
  have hfrom {k : Nat} (hk : k ≤ maxPower) (hlow : 288 ≤ k) (h : n * 10 ^ k ≤ rangeLimit) :
      (ofNat n * power k).isFinite := by
    have hle : n ≤ rangeLimit / 10 ^ k := (Nat.le_div_iff_mul_le (Nat.pow_pos (by decide))).2 h
    exact isFinite_ofNat_mul_power (Nat.le_min.2 ⟨hn, hle⟩) (Nat.le_refl k) hk
      (isFinite_rangeLimit k hk hlow)
  rcases Nat.le_total 288 e with hhigh | hlow
  · exact hfrom he hhigh h
  · have hlargest : n * 10 ^ 288 ≤ rangeLimit :=
      Nat.le_trans (Nat.mul_le_mul_right _ hn) rangeLimit_bounds.1
    have hpower : 288 ≤ maxPower := by decide
    exact isFinite_ofNat_mul_power (Nat.le_refl n) hlow hpower
      (hfrom hpower (Nat.le_refl 288) hlargest)

theorem quick?_isSome_of_isFinite {n e : Nat} (he : e ≤ maxPower)
    (h : (ofNat n * power e).isFinite) (negative : Bool) : (quick? negative n e).isSome := by
  have hinfinite : (ofNat n * power e).isInfinite = false := by
    revert h
    cases ofNat n * power e with
    | nan => exact fun _ => rfl
    | signed s m => exact fun h => by simpa [isInfinite, Binary64.isFinite] using h
  simp [quick?, ofParts, Nat.not_lt.2 he, hinfinite]

/-- A number within the limit is read. -/
theorem quick?_isSome {n : Nat} {e : Int} (hn : n ≤ maxSignificand)
    (h : n * 10 ^ e.toNat ≤ rangeLimit) (negative : Bool) : (quick? negative n e).isSome := by
  cases e with
  | negSucc e => rfl
  | ofNat e =>
    rcases Nat.lt_or_ge maxPower e with hhigh | hlow
    · -- Past every looked-up power only zero keeps within the limit.
      have hpower : 10 ^ (maxPower + 1) ≤ 10 ^ e := Nat.pow_le_pow_right (by decide) hhigh
      obtain rfl : n = 0 := by
        refine Nat.eq_zero_of_not_pos fun hpos => ?_
        have hle : 10 ^ e ≤ n * 10 ^ e := Nat.le_mul_of_pos_left _ hpos
        exact Nat.not_lt.2 (Nat.le_trans (Nat.le_trans hpower hle) h) rangeLimit_bounds.2
      have hzero : (ofNat 0).isZero := by
        rw [ofNat_zero]
        rfl
      simp [quick?, ofParts, hhigh, hzero]
    · exact quick?_isSome_of_isFinite hlow (isFinite_of_le_rangeLimit hn hlow h) negative

/-- A number with no power of ten to multiply by is read. -/
theorem quick?_isSome_of_nonpos {n : Nat} {e : Int} (hn : n ≤ maxSignificand) (he : e ≤ 0)
    (negative : Bool) : (quick? negative n e).isSome := by
  refine quick?_isSome hn ?_ negative
  rw [Int.toNat_of_nonpos he, Nat.pow_zero, Nat.mul_one]
  exact Nat.le_trans hn maxSignificand_le_rangeLimit

/-- The number just past the limit rounds to the largest one. -/
theorem rank_nearest_rangeLimit :
    (Magnitude.nearest ((rangeLimit + 1) * unitsPerOne) 1).rank = topRank - 1 := by
  decide +kernel

/-- The leading digits of a decimal are not more than it. -/
theorem leading_le {n dropped digits : Nat} {exponent : Int} (hn : n * 10 ^ dropped ≤ digits)
    (hexponent : 0 ≤ dropped + exponent) :
    n * 10 ^ (dropped + exponent).toNat * 10 ^ (-exponent).toNat ≤
      digits * 10 ^ exponent.toNat := by
  have hpower : (dropped + exponent).toNat + (-exponent).toNat = dropped + exponent.toNat := by
    omega
  rw [Nat.mul_assoc, ← Nat.pow_add, hpower, Nat.pow_add, ← Nat.mul_assoc]
  exact Nat.mul_le_mul_right _ hn

/-- The leading digits of a decimal that is read as a magnitude keep within the limit, except for
the largest one. -/
theorem le_rangeLimit {m : Magnitude} (hm : m.rank < topRank - 1) (hrank : m.rank ≠ 0) {d : Decimal}
    (h : m.ReadsBack d) {n dropped : Nat} (hn : n ≤ maxSignificand)
    (hdigits : n * 10 ^ dropped ≤ d.digits) :
    n * 10 ^ (dropped + d.exponent).toNat ≤ rangeLimit := by
  rcases Int.lt_or_le (dropped + d.exponent) 0 with hneg | hexponent
  · rw [Int.toNat_of_nonpos hneg.le, Nat.pow_zero, Nat.mul_one]
    exact Nat.le_trans hn maxSignificand_le_rangeLimit
  have hfinite : m.isFinite := decide_eq_true (by omega)
  obtain ⟨-, -, hnearest⟩ := nearest_of_readsBack hfinite hrank h
  refine Nat.not_lt.1 fun hgreater => ?_
  have hle : (Magnitude.nearest ((rangeLimit + 1) * unitsPerOne) 1).rank ≤ m.rank := by
    rw [hnearest]
    refine Magnitude.nearest_mono Nat.one_pos (Nat.pow_pos (by decide)) ?_
    calc (rangeLimit + 1) * unitsPerOne * 10 ^ (-d.exponent).toNat
        = (rangeLimit + 1) * 10 ^ (-d.exponent).toNat * unitsPerOne := Nat.mul_right_comm _ _ _
      _ ≤ n * 10 ^ (dropped + d.exponent).toNat * 10 ^ (-d.exponent).toNat * unitsPerOne :=
          Nat.mul_le_mul_right _ (Nat.mul_le_mul_right _ (Nat.add_one_le_iff.2 hgreater))
      _ ≤ d.digits * 10 ^ d.exponent.toNat * unitsPerOne :=
          Nat.mul_le_mul_right _ (leading_le hdigits hexponent)
      _ = d.digits * 10 ^ d.exponent.toNat * unitsPerOne * 1 := (Nat.mul_one _).symm
  rw [rank_nearest_rangeLimit] at hle
  omega

/-- The shortest digits of the largest magnitude, which are in range as they stand. -/
theorem shortest_largest :
    (Magnitude.ofRank (topRank - 1)).shortest .toEven = ⟨17976931348623157, 292⟩ ∧
      (ofNat 17976931348623157 * power 292).isFinite := by
  have hfound : ((List.range 17).findSome? fun (n : Nat) =>
      (Magnitude.ofRank (topRank - 1)).neighbour? .toEven
        ((Magnitude.ofRank (topRank - 1)).leadingPlace - n)) = some ⟨17976931348623157, 292⟩ ∧
      (ofNat 17976931348623157 * power 292).isFinite := by
    decide +kernel
  refine ⟨?_, hfound.2⟩
  rw [Magnitude.shortest, hfound.1, Option.getD_some, Decimal.trim, dif_neg (by decide)]

/-- The shortest digits of a finite magnitude, as many of them as fit 64 bits, are read. -/
theorem quick?_shortest {m : Magnitude} (hm : m.isFinite) (hrank : m.rank ≠ 0) {n dropped : Nat}
    (hn : n ≤ maxSignificand) (hdigits : n * 10 ^ dropped ≤ (m.shortest .toEven).digits)
    (hall : (m.shortest .toEven).digits ≤ maxSignificand →
      n = (m.shortest .toEven).digits ∧ dropped = 0) (negative : Bool) :
    (quick? negative n (dropped + (m.shortest .toEven).exponent)).isSome := by
  have hlt : m.rank < topRank := of_decide_eq_true hm
  rcases Nat.lt_or_ge m.rank (topRank - 1) with hbelow | htop
  · exact quick?_isSome hn
      (le_rangeLimit hbelow hrank (Magnitude.readsBack_shortest hm hrank _) hn hdigits) negative
  · obtain rfl : m = .ofRank (topRank - 1) := by
      have hrank' : m.rank = topRank - 1 := by omega
      cases m
      simpa [Magnitude.ofRank] using hrank'
    obtain ⟨hshortest, hfinite⟩ := shortest_largest
    rw [hshortest] at hall ⊢
    obtain ⟨rfl, rfl⟩ := hall (by decide)
    exact quick?_isSome_of_isFinite (e := 292) (by decide) hfinite negative

end CertaintyFactor.Json.Number
