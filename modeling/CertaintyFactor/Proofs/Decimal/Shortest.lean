import CertaintyFactor.Decimal.Shortest
import CertaintyFactor.Proofs.Binary64.Rounding
import CertaintyFactor.Proofs.Decimal.Digits

/-!
# The shortest decimal reads back

The decimal that stands for a magnitude in texts is read as that magnitude again, also where none of
the short ones is and all digits are written (`Magnitude.readsBack_shortest`).
-/

set_option autoImplicit false

namespace CertaintyFactor

namespace Binary64

/-- The number of places of a decimal before its point. -/
def places (digits : Nat) (exponent : Int) : Int :=
  (Decimal.toDigits digits).length + exponent

/-- Within the range of magnitudes the value of a decimal is rounded once. -/
theorem ofDecimal_eq (negative : Bool) (digits : Nat) (exponent : Int) :
    ofDecimal negative digits exponent =
      if digits = 0 then .signed negative .zero
      else if decimalCeiling < places digits exponent then .signed negative .infinity
      else if places digits exponent < decimalFloor then .signed negative .zero
      else ofRatio negative (digits * 10 ^ exponent.toNat) (10 ^ (-exponent).toNat) := by
  unfold ofDecimal
  cases exponent with
  | ofNat e => simp [places, Decimal.toDigits]
  | negSucc e => simp [places, Decimal.toDigits]

theorem ofDecimal_eq_ofRatio {digits : Nat} {exponent : Int} (hdigits : digits ≠ 0)
    (hceiling : places digits exponent ≤ decimalCeiling)
    (hfloor : decimalFloor ≤ places digits exponent) (negative : Bool) :
    ofDecimal negative digits exponent =
      ofRatio negative (digits * 10 ^ exponent.toNat) (10 ^ (-exponent).toNat) := by
  rw [ofDecimal_eq, if_neg hdigits, if_neg (Int.not_lt.2 hceiling), if_neg (Int.not_lt.2 hfloor)]

/-- A decimal that is read as a finite magnitude other than zero is within the range. -/
theorem nearest_of_readsBack {m : Magnitude} (hm : m.isFinite) (hrank : m.rank ≠ 0) {d : Decimal}
    (h : m.ReadsBack d) :
    d.digits ≠ 0 ∧ places d.digits d.exponent ≤ decimalCeiling ∧
      m = .nearest (d.digits * 10 ^ d.exponent.toNat * unitsPerOne)
        (10 ^ (-d.exponent).toNat) := by
  have hzero : Magnitude.zero ≠ m := by
    rintro rfl
    exact hrank rfl
  have hinfinity : Magnitude.infinity ≠ m := by
    rintro rfl
    cases hm
  simp only [Magnitude.ReadsBack, Decimal.toBinary64, ofDecimal_eq] at h
  split at h
  · exact absurd (Binary64.signed.inj h).2 hzero
  next hdigits =>
  split at h
  · exact absurd (Binary64.signed.inj h).2 hinfinity
  next hceiling =>
  split at h
  · exact absurd (Binary64.signed.inj h).2 hzero
  · exact ⟨hdigits, Int.not_lt.1 hceiling, (Binary64.signed.inj h).2.symm⟩

theorem length_toDigits_mul_ten {digits : Nat} (hdigits : digits ≠ 0) :
    (Decimal.toDigits (10 * digits)).length = (Decimal.toDigits digits).length + 1 := by
  have hle : 10 ≤ 10 * digits := by omega
  have hsplit : Decimal.toDigits (10 * digits) = Decimal.toDigits digits ++ ['0'] := by
    rw [Decimal.toDigits, Nat.toDigits_of_base_le (by decide) hle,
      Nat.mul_div_cancel_left _ (by decide), Nat.mul_mod_right]
    rfl
  rw [hsplit, List.length_append]
  rfl

/-- A zero at the end of the digits counts like one more in the exponent. -/
theorem ofDecimal_mul_ten {digits : Nat} (hdigits : digits ≠ 0) (negative : Bool)
    (exponent : Int) :
    ofDecimal negative (10 * digits) exponent = ofDecimal negative digits (exponent + 1) := by
  have hplaces : places (10 * digits) exponent = places digits (exponent + 1) := by
    simp only [places, length_toDigits_mul_ten hdigits]
    omega
  have hratio : ofRatio negative (10 * digits * 10 ^ exponent.toNat) (10 ^ (-exponent).toNat) =
      ofRatio negative (digits * 10 ^ (exponent + 1).toNat) (10 ^ (-(exponent + 1)).toNat) := by
    refine congrArg (Binary64.signed negative) (Magnitude.nearest_congr (Nat.pow_pos (by decide))
      (Nat.pow_pos (by decide)) ?_)
    cases exponent with
    | ofNat e =>
      have h : (Int.ofNat e + 1).toNat = e + 1 := rfl
      have h' : (-(Int.ofNat e + 1)).toNat = 0 := by omega
      have h'' : (-Int.ofNat e).toNat = 0 := by omega
      have h0 : (Int.ofNat e).toNat = e := rfl
      rw [h, h', h'', h0]
      ring
    | negSucc e =>
      have h : (Int.negSucc e + 1).toNat = 0 := by omega
      have h' : (-(Int.negSucc e + 1)).toNat = e := by omega
      have h'' : (-Int.negSucc e).toNat = e + 1 := rfl
      have h0 : (Int.negSucc e).toNat = 0 := rfl
      rw [h, h', h'', h0]
      ring
  have hne : 10 * digits ≠ 0 := by omega
  rw [ofDecimal_eq, ofDecimal_eq, hplaces, hratio, if_neg hne, if_neg hdigits]

end Binary64

namespace Decimal

theorem toBinary64_trim (d : Decimal) (negative : Bool) :
    d.trim.toBinary64 negative = d.toBinary64 negative := by
  fun_induction trim d with
  | case1 d h ih =>
    have hdiv : 10 * (d.digits / 10) = d.digits := by omega
    rw [ih]
    change Binary64.ofDecimal negative (d.digits / 10) (d.exponent + 1) = 
      Binary64.ofDecimal negative d.digits d.exponent
    rw [← Binary64.ofDecimal_mul_ten (by omega), hdiv]
  | case2 => rfl

end Decimal

namespace Binary64.Magnitude

theorem readsBack_of_neighbour? {m : Magnitude} {tie : Decimal.Tie} {exponent : Int} {d : Decimal}
    (h : m.neighbour? tie exponent = some d) : m.ReadsBack d := by
  simp only [neighbour?] at h
  split at h
  · next hbelow =>
    split at h
    · next habove =>
      split at h
      · exact Option.some.inj h ▸ hbelow
      · exact Option.some.inj h ▸ habove
      · split at h
        · exact Option.some.inj h ▸ habove
        · exact Option.some.inj h ▸ hbelow
    · exact Option.some.inj h ▸ hbelow
  · split at h
    · next habove => exact Option.some.inj h ▸ habove
    · cases h

theorem units_lt {m : Magnitude} (hm : m.isFinite) : m.units < Nat.pow 2 2098 := by
  have hrank : m.rank < topRank := of_decide_eq_true hm
  have hexponent : m.rank / fractions - 1 ≤ 2045 := by
    have hdiv : m.rank / fractions < 2047 := Nat.div_lt_of_lt_mul (by omega)
    omega
  have hbits : m.units < 2 ^ 53 * 2 ^ (m.rank / fractions - 1) := by
    have hpos := Nat.two_pow_pos (m.rank / fractions - 1)
    by_cases hlt : m.rank < fractions
    · rw [units_of_lt hlt]
      refine Nat.lt_of_lt_of_le hlt (Nat.le_trans ?_ (Nat.le_mul_of_pos_right _ hpos))
      decide
    · rw [units_of_le (Nat.le_of_not_lt hlt)]
      have hfraction : m.rank % fractions < fractions := Nat.mod_lt _ (by decide)
      refine Nat.mul_lt_mul_of_pos_right ?_ hpos
      unfold fractions at *
      omega
  have hsplit {k : Nat} (hexponent : m.rank / fractions - 1 ≤ k) (hk : 2098 = 53 + k) :
      m.units < Nat.pow 2 2098 := by
    rw [hk, Nat.pow_eq, Nat.pow_add]
    exact Nat.lt_of_lt_of_le hbits
      (Nat.mul_le_mul_left _ (Nat.pow_le_pow_right (by decide) hexponent))
  exact hsplit hexponent (by decide)

theorem units_pos {m : Magnitude} (hrank : m.rank ≠ 0) : 0 < m.units := by
  have hle : (ofRank 1).rank ≤ m.rank := by
    simp only [ofRank, topRank, fractions]
    omega
  refine Nat.lt_of_lt_of_le ?_ (units_mono hle)
  decide

/-- All digits of a magnitude are within the range of magnitudes. -/
theorem length_exactDecimal {m : Magnitude} (hm : m.isFinite) (hrank : m.rank ≠ 0) :
    743 < (Decimal.toDigits m.exactDecimal.digits).length ∧
      (Decimal.toDigits m.exactDecimal.digits).length ≤ 1384 := by
  have hpower : 10 ^ 743 ≤ Nat.pow 5 1074 ∧ Nat.pow 2 2098 * Nat.pow 5 1074 ≤ 10 ^ 1384 := by
    decide +kernel
  constructor
  · rw [← Nat.not_le, Decimal.length_toDigits_le_iff (by decide), Nat.not_lt]
    exact hpower.1.trans (Nat.le_mul_of_pos_left _ (units_pos hrank))
  · rw [Decimal.length_toDigits_le_iff (by decide)]
    have hpos : 0 < Nat.pow 5 1074 := by
      simp only [Nat.pow_eq, Nat.pow_pos, Nat.zero_lt_succ]
    exact Nat.lt_of_lt_of_le (Nat.mul_lt_mul_of_pos_right (units_lt hm) hpos) hpower.2

/-- All digits of a magnitude write its exact value. -/
theorem readsBack_exactDecimal {m : Magnitude} (hm : m.isFinite) (hrank : m.rank ≠ 0) :
    m.ReadsBack m.exactDecimal := by
  obtain ⟨hfloor, hceiling⟩ := length_exactDecimal hm hrank
  have hexponent : m.exactDecimal.exponent = -1074 := rfl
  have hpower : Nat.pow 5 1074 * unitsPerOne = 10 ^ (-(-1074) : Int).toNat := by
    have hexponent : (-(-1074) : Int).toNat = 1074 := rfl
    rw [hexponent]
    unfold unitsPerOne
    generalize 1074 = k
    exact (Nat.mul_pow 5 2 k).symm
  have hdigits : m.exactDecimal.digits ≠ 0 := by
    intro hzero
    rw [hzero] at hfloor
    exact absurd hfloor (by decide)
  have hunits : m.exactDecimal.digits * 10 ^ (-1074 : Int).toNat * unitsPerOne * 1 =
      m.units * 10 ^ (-(-1074) : Int).toNat := by
    have hzero : (-1074 : Int).toNat = 0 := rfl
    rw [hzero, Nat.pow_zero, Nat.mul_one, Nat.mul_one, exactDecimal, Nat.mul_assoc, hpower]
  unfold ReadsBack Decimal.toBinary64
  rw [ofDecimal_eq_ofRatio hdigits, hexponent]
  · refine congrArg (Binary64.signed false) ?_
    rw [nearest_congr (Nat.pow_pos (by decide)) Nat.one_pos hunits, nearest_units]
  · simp only [places, decimalCeiling, hexponent]
    omega
  · simp only [places, decimalFloor, hexponent]
    omega

/-- The shortest decimal of a magnitude is read as that magnitude. -/
theorem readsBack_shortest {m : Magnitude} (hm : m.isFinite) (hrank : m.rank ≠ 0)
    (tie : Decimal.Tie) : m.ReadsBack (m.shortest tie) := by
  simp only [shortest]
  change Decimal.toBinary64 _ false = _
  rw [Decimal.toBinary64_trim]
  cases hfound : (List.range 17).findSome? fun (n : Nat) =>
      m.neighbour? tie (m.leadingPlace - n) with
  | none => exact readsBack_exactDecimal hm hrank
  | some d =>
    obtain ⟨n, -, hn⟩ := List.exists_of_findSome?_eq_some hfound
    exact readsBack_of_neighbour? hn

end Binary64.Magnitude

end CertaintyFactor
