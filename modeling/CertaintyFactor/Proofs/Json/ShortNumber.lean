import CertaintyFactor.Proofs.Binary64.Nearest
import CertaintyFactor.Proofs.Json.NumberText

/-!
# Numbers of few digits are read as they are

Reading a number rounds three times: the significand, the power of ten, and what the two come to. A
significand below `2 ^ 53` is not changed by that, and neither is a power of ten up to the
twenty-second. What is left is one rounding of the value that is written, which is how the digits
were chosen: so the number that is read is the one that was written (`Binary64.reread_of_isShort`).
-/

set_option autoImplicit false

namespace CertaintyFactor

/-- The digits make up less than `2 ^ 53`, with the zero behind the point of a whole number among
them, and stand at most 22 places behind the point. -/
structure Decimal.IsShort (d : Decimal) : Prop where
  bits : d.digits * 10 ^ (d.exponent + 1).toNat < 2 ^ 53
  places : -22 ≤ d.exponent

instance (d : Decimal) : Decidable d.IsShort :=
  decidable_of_iff (d.digits * 10 ^ (d.exponent + 1).toNat < 2 ^ 53 ∧ -22 ≤ d.exponent)
    ⟨fun h => ⟨h.1, h.2⟩, fun h => ⟨h.bits, h.places⟩⟩

/-- A finite number that documents write with few digits. Fifteen are few enough from `1e-8` up to
below `1e14`. -/
def Binary64.IsShort : Binary64 → Prop
  | .nan => False
  | .signed _ m => m.isFinite ∧ (m.shortest .toEven).IsShort

instance : (x : Binary64) → Decidable x.IsShort
  | .nan => .isFalse nofun
  | .signed _ _ => inferInstanceAs (Decidable (_ ∧ _))

theorem Decimal.IsShort.place_le {d : Decimal} (h : d.IsShort) (hdigits : d.digits ≠ 0) :
    ((Decimal.toDigits d.digits).length : Int) - 1 + d.exponent ≤ 15 := by
  have hten : d.digits * 10 ^ (d.exponent + 1).toNat < 10 ^ 16 :=
    Nat.lt_trans h.bits (by decide)
  have hzeros : (d.exponent + 1).toNat < 16 := by
    refine (Nat.pow_lt_pow_iff_right (a := 10) (by decide)).1 (Nat.lt_of_le_of_lt ?_ hten)
    exact Nat.le_mul_of_pos_left _ (Nat.pos_of_ne_zero hdigits)
  have hlength : (Decimal.toDigits d.digits).length ≤ 16 - (d.exponent + 1).toNat := by
    rw [Decimal.length_toDigits_le_iff (by omega)]
    refine Nat.lt_of_mul_lt_mul_right (a := 10 ^ (d.exponent + 1).toNat) ?_
    rwa [← Nat.pow_add, Nat.sub_add_cancel (Nat.le_of_lt hzeros)]
  omega

namespace Json.Number

open Reader Binary64

/-! ## Exact powers of ten -/

theorem ten_pow_mul_unitsPerOne (e : Nat) : 10 ^ e * unitsPerOne = 5 ^ e * 2 ^ (e + 1074) := by
  rw [Magnitude.unitsPerOne_eq]
  generalize 1074 = k
  rw [Nat.pow_add, ← Nat.mul_assoc, ← Nat.mul_pow]

/-- Powers of ten are not rounded up to the twenty-second. -/
theorem exists_power_eq {e : Nat} (he : e ≤ 22) :
    ∃ m, power e = .signed false m ∧ m.isFinite ∧ m.units = 10 ^ e * unitsPerOne := by
  have hbits : 5 ^ e < 2 ^ 53 :=
    Nat.lt_of_le_of_lt (Nat.pow_le_pow_right (by decide) he) (by decide)
  have hroom : e + 1074 < 2045 := by omega
  refine ⟨_, power_eq (Nat.le_trans he (by decide)), ?_⟩
  rw [ten_pow_mul_unitsPerOne]
  exact ⟨Magnitude.isFinite_bits hbits hroom, Magnitude.units_bits hbits hroom⟩

/-- Where neither the significand nor the power of ten is rounded, their quotient is rounded
once. -/
theorem quick?_exact {n e : Nat} (hn : n < 2 ^ 53) (hpos : 0 < e) (he : e ≤ 22) (negative : Bool) :
    quick? negative n (-e) = some (.signed negative (.nearest (n * unitsPerOne) (10 ^ e))) := by
  obtain ⟨m, hpower, hfinite, hunits⟩ := exists_power_eq he
  have hten : 0 < 10 ^ e := Nat.pow_pos (by decide)
  have hrank : m.rank ≠ 0 := by
    intro hzero
    have hlt : m.rank < fractions := hzero ▸ Nat.two_pow_pos 52
    rw [Magnitude.units_of_lt hlt, hzero] at hunits
    exact absurd hunits.symm (Nat.mul_pos hten unitsPerOne_pos).ne'
  have hratio :
      n * unitsPerOne * unitsPerOne * 10 ^ e = n * unitsPerOne * (10 ^ e * unitsPerOne) := by
    ring
  have hquotient : ofNat n / power e = .signed false (.nearest (n * unitsPerOne) (10 ^ e)) := by
    rw [ofNat_eq, hpower, div_signed (Magnitude.isFinite_whole hn) hfinite hrank,
      Magnitude.units_whole hn, hunits,
      Magnitude.nearest_congr (Nat.mul_pos hten unitsPerOne_pos) hten hratio]
    rfl
  obtain ⟨k, rfl⟩ := Nat.exists_eq_add_of_le' hpos
  have hquick : quick? negative n (-(k + 1 : Nat)) =
      some (if negative then -shrink (ofNat n) (k + 1) else shrink (ofNat n) (k + 1)) := rfl
  have hsmall : ¬ maxPower < k + 1 := by
    simp only [maxPower]
    omega
  rw [hquick, shrink, dif_neg hsmall, hquotient]
  cases negative <;> rfl

/-! ## Short numbers -/

/-- Any way to write a decimal as a small significand and an exact power of ten is read as the
magnitude that the decimal stands for. -/
theorem quick?_of_readsBack {m : Magnitude} (hm : m.isFinite) (hrank : m.rank ≠ 0) {d : Decimal}
    (h : m.ReadsBack d) {n e : Nat} (hn : n < 2 ^ 53) (hpos : 0 < e) (he : e ≤ 22)
    (hvalue : n * 10 ^ (-d.exponent).toNat = d.digits * 10 ^ d.exponent.toNat * 10 ^ e)
    (negative : Bool) : quick? negative n (-e) = some (.signed negative m) := by
  obtain ⟨-, -, hnearest⟩ := nearest_of_readsBack hm hrank h
  have hten (k : Nat) : 0 < 10 ^ k := Nat.pow_pos (by decide)
  have hsame : Magnitude.nearest (n * unitsPerOne) (10 ^ e) = m := by
    rw [hnearest]
    refine Magnitude.nearest_congr (hten _) (hten _) ?_
    rw [Nat.mul_right_comm, hvalue, Nat.mul_right_comm]
  rw [quick?_exact hn hpos he, hsame]

theorem readsText_zero {m : Magnitude} (hrank : m.rank = 0) (negative : Bool) :
    ReadsText negative ['0', '.', '0'] (.signed negative m) := by
  have hunits : m.units = 0 := (Magnitude.units_of_lt (hrank ▸ Nat.two_pow_pos 52)).trans hrank
  have hsame : Magnitude.nearest (0 * unitsPerOne) (10 ^ 1) = m := by
    rw [← Magnitude.nearest_units m, hunits, Nat.zero_mul]
    exact Magnitude.nearest_congr (by decide) (by decide) (by decide)
  refine readsText_point_all isWhole_zero isWhole_zero.ne_nil isWhole_zero.isDigit (by decide) ?_
  rw [← hsame]
  exact quick?_exact (n := 0) (e := 1) (by decide) (by decide) (by decide) negative

/-- A short decimal is read as the magnitude it stands for, with an exponent or without. -/
theorem readsText_of_isShort {m : Magnitude} (hm : m.isFinite) (hrank : m.rank ≠ 0) {d : Decimal}
    (hreads : m.ReadsBack d) (hshort : d.IsShort) {place : Int}
    (hplace : place = (Decimal.toDigits d.digits).length - 1 + d.exponent) (negative : Bool) :
    ReadsText negative (if Decimal.Layout.json.positional place
      then Decimal.Layout.json.positionalText d else Decimal.Layout.exponentText d place)
        (.signed negative m) := by
  obtain ⟨hdigits, -, -⟩ := nearest_of_readsBack hm hrank hreads
  have hle := hshort.place_le hdigits
  obtain ⟨hbits, hplaces⟩ := hshort
  split
  · obtain ⟨whole, part, htext, hwhole, hpart, -, hlength, hvalue⟩ := exists_positionalText hdigits
    have hne : part ≠ [] := by
      rw [← List.length_pos_iff]
      omega
    rw [← hvalue] at hbits
    rw [htext]
    refine readsText_point_all hwhole hne hpart (Nat.le_trans (Nat.le_of_lt hbits) (by decide)) ?_
    refine quick?_of_readsBack hm hrank hreads hbits (List.length_pos_iff.2 hne) (by omega) ?_
      negative
    have hpowers : (d.exponent + 1).toNat + (-d.exponent).toNat =
        d.exponent.toNat + part.length := by
      omega
    rw [hvalue, Nat.mul_assoc, ← Nat.pow_add, hpowers, Nat.pow_add, Nat.mul_assoc]
  · next hpositional =>
    -- A short number is not large, so it is small.
    have hneg : d.exponent < 0 := by
      simp only [Decimal.Layout.json, Bool.and_eq_true, decide_eq_true_eq] at hpositional
      omega
    have hzero : (d.exponent + 1).toNat = 0 ∧ d.exponent.toNat = 0 := by omega
    have hexponent : d.exponent = -((-d.exponent).toNat : Int) := by omega
    rw [hzero.1, Nat.pow_zero, Nat.mul_one] at hbits
    refine readsText_exponentText (Nat.le_trans (Nat.le_of_lt hbits) (by decide)) hplace ?_ ?_
    · simp only [maxExponent]
      omega
    · rw [hexponent]
      refine quick?_of_readsBack hm hrank hreads hbits (by omega) (by omega) ?_ negative
      rw [hzero.2, Nat.pow_zero, Nat.mul_one]

theorem readsText_magnitudeText {m : Magnitude} (hm : m.isFinite)
    (hshort : (m.shortest .toEven).IsShort) (negative : Bool) :
    ReadsText negative (Decimal.Layout.json.magnitudeText m) (.signed negative m) := by
  unfold Decimal.Layout.magnitudeText
  split
  · next hrank => exact readsText_zero hrank negative
  · next hrank =>
    exact readsText_of_isShort hm hrank (Magnitude.readsBack_shortest hm hrank .toEven) hshort rfl
      negative

end Json.Number

theorem Binary64.isFinite_of_isShort {x : Binary64} (h : x.IsShort) : x.isFinite := by
  cases x with
  | nan => exact absurd h id
  | signed negative m => exact h.1

/-- A number that is written with few digits is read as it is. -/
theorem Binary64.reread_of_isShort {x : Binary64} (h : x.IsShort) : x.reread = x := by
  cases x with
  | nan => exact absurd h id
  | signed negative m =>
    exact Json.Number.reread_eq h.1 (Json.Number.readsText_magnitudeText h.1 h.2 negative)

end CertaintyFactor
