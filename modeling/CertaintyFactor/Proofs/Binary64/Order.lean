import CertaintyFactor.Proofs.Binary64.Nearest

/-!
# Numeric order

Binary64 numbers are compared by their places on the number line, and a NaN has none. Products with
a positive number and the rounding to whole numbers keep the order, overflow and saturation
included, so a greater number never has a smaller percentage (`percent_mono`).
-/

set_option autoImplicit false

namespace CertaintyFactor.Binary64

/-! ## Places on the number line -/

/-- The place of a signed magnitude. -/
def place (negative : Bool) (m : Magnitude) : Int :=
  if negative then -m.rank else m.rank

theorem le_signed_iff {s t : Bool} {m n : Magnitude} :
    (signed s m).le (signed t n) ↔ place s m ≤ place t n := by
  cases s <;> cases t <;> simp [le, place?, place]

theorem not_nan_le (x : Binary64) : ¬ nan.le x := by
  simp [le, place?]

theorem not_le_nan (x : Binary64) : ¬ x.le nan := by
  cases x with
  | nan => exact not_nan_le nan
  | signed s m => cases s <;> simp [le, place?]

theorem negativeInfinity_le {x : Binary64} (hx : x.isNaN = false) : negativeInfinity.le x := by
  cases x with
  | nan => cases hx
  | signed s m =>
    have hle := m.rank_le
    rw [negativeInfinity, le_signed_iff]
    unfold place Magnitude.infinity
    dsimp only
    cases s <;> grind

/-- Only numbers are compared. -/
theorem exists_signed_of_le {x y : Binary64} (h : x.le y) :
    ∃ s m t n, x = signed s m ∧ y = signed t n ∧ place s m ≤ place t n := by
  cases x with
  | nan => exact absurd h (not_nan_le y)
  | signed s m =>
    cases y with
    | nan => exact absurd h (not_le_nan _)
    | signed t n => exact ⟨s, m, t, n, rfl, rfl, le_signed_iff.1 h⟩

theorem le_trans {x y z : Binary64} (hxy : x.le y) (hyz : y.le z) : x.le z := by
  obtain ⟨s, m, t, n, rfl, rfl, hmn⟩ := exists_signed_of_le hxy
  cases z with
  | nan => exact absurd hyz (not_le_nan _)
  | signed u k => exact le_signed_iff.2 (Int.le_trans hmn (le_signed_iff.1 hyz))

/-- The total order refines the numeric one. -/
theorem le_of_orderKey_le {x y : Binary64} (hx : x.isNaN = false) (hy : y.isNaN = false)
    (h : x.orderKey ≤ y.orderKey) : x.le y := by
  cases x with
  | nan => cases hx
  | signed s m =>
    cases y with
    | nan => cases hy
    | signed t n =>
      rw [le_signed_iff]
      cases s <;> cases t <;> simp only [orderKey, place] at h ⊢ <;> grind

/-- A number without a minus sign is below one with it only if both are zeros. -/
theorem rank_eq_zero_of_place_le {m n : Magnitude} (h : place false m ≤ place true n) :
    m.rank = 0 ∧ n.rank = 0 := by
  simp only [place, Bool.false_eq_true, if_false, if_true] at h
  omega

/-- Changing the magnitudes of numbers keeps their order if greater magnitudes become no smaller and
zero stays zero. -/
theorem place_map_le {f : Magnitude → Magnitude} (hzero : ∀ m, m.rank = 0 → (f m).rank = 0)
    (hmono : ∀ m n, m.rank ≤ n.rank → (f m).rank ≤ (f n).rank) {s t : Bool} {m n : Magnitude}
    (h : place s m ≤ place t n) : place s (f m) ≤ place t (f n) := by
  cases s with
  | false =>
    cases t with
    | false =>
      have hf := hmono m n (by simpa [place] using h)
      simpa [place] using hf
    | true =>
      obtain ⟨hm, hn⟩ := rank_eq_zero_of_place_le h
      simp [place, hzero m hm, hzero n hn]
  | true =>
    cases t with
    | false => simp only [place]; grind
    | true =>
      have hf := hmono n m (by simpa [place] using h)
      simpa [place] using hf

/-! ## Products with a positive number -/

namespace Magnitude

theorem units_zero {m : Magnitude} (h : m.rank = 0) : m.units = 0 := by
  have hlt : m.rank < fractions := by
    rw [h]
    exact Nat.two_pow_pos 52
  rw [units_of_lt hlt, h]

theorem isFinite_zero {m : Magnitude} (h : m.rank = 0) : m.isFinite := by
  have hlt : m.rank < topRank := by
    rw [h]
    exact Nat.mul_pos (by decide) (Nat.two_pow_pos 52)
  exact decide_eq_true hlt

theorem nearest_zero {d : Nat} (hd : 0 < d) : (nearest 0 d).rank = 0 := by
  have hscale : scale 0 d = 0 := by
    rw [scale, Nat.zero_div, Nat.log2_zero]
  have hquotient := Decimal.roundedQuotient_mul 0 hd
  rw [Nat.zero_mul] at hquotient
  have hrank : nearestRank 0 d = 0 := by
    rw [nearestRank_eq, hscale, Nat.pow_zero, Nat.mul_one, hquotient, Nat.zero_mul]
  rw [nearest, hrank]
  exact Nat.zero_min _

theorem isFinite_of_le {m n : Magnitude} (h : m.rank ≤ n.rank) (hn : n.isFinite) : m.isFinite :=
  decide_eq_true (Nat.lt_of_le_of_lt h (of_decide_eq_true hn))

/-- A magnitude multiplied by a positive finite one. -/
def times (c m : Magnitude) : Magnitude :=
  if m.isFinite then nearest (m.units * c.units) unitsPerOne else infinity

theorem times_zero (c : Magnitude) {m : Magnitude} (h : m.rank = 0) : (times c m).rank = 0 := by
  rw [times, if_pos (isFinite_zero h), units_zero h, Nat.zero_mul,
    nearest_zero unitsPerOne_pos]

theorem times_mono (c : Magnitude) {m n : Magnitude} (h : m.rank ≤ n.rank) :
    (times c m).rank ≤ (times c n).rank := by
  unfold times
  by_cases hn : n.isFinite
  · rw [if_pos hn, if_pos (isFinite_of_le h hn)]
    exact nearest_mono unitsPerOne_pos unitsPerOne_pos
      (Nat.mul_le_mul_right _ (Nat.mul_le_mul_right _ (units_mono h)))
  · rw [if_neg hn]
    exact rank_le _

end Magnitude

theorem signed_mul {c : Magnitude} (hc : c.isFinite) (hpos : c.rank ≠ 0) (s : Bool)
    (m : Magnitude) : signed s m * signed false c = signed s (.times c m) := by
  by_cases hm : m.isFinite
  · rw [mul_signed hm hc, Magnitude.times, if_pos hm, Bool.bne_false]
  · have hrank : m.rank ≠ 0 := by
      intro hzero
      exact hm (Magnitude.isFinite_zero hzero)
    show mul _ _ = _
    simp [mul, hm, hrank, hpos, Magnitude.times]

theorem mul_mono {c : Magnitude} (hc : c.isFinite) (hpos : c.rank ≠ 0) {x y : Binary64}
    (h : x.le y) : (x * signed false c).le (y * signed false c) := by
  obtain ⟨s, m, t, n, rfl, rfl, hmn⟩ := exists_signed_of_le h
  rw [signed_mul hc hpos, signed_mul hc hpos, le_signed_iff]
  exact place_map_le (fun _ => Magnitude.times_zero c) (fun _ _ => Magnitude.times_mono c) hmn

/-! ## Whole numbers -/

namespace Magnitude

/-- The whole number nearest to a magnitude, if that is no more than the greatest one held. -/
def wholes (m : Magnitude) : Nat :=
  if m.isFinite then min 0x8000000000000000 ((m.units + unitsPerOne / 2) / unitsPerOne)
  else 0x8000000000000000

theorem wholes_zero {m : Magnitude} (h : m.rank = 0) : m.wholes = 0 := by
  have hhalf : (0 + unitsPerOne / 2) / unitsPerOne = 0 := by
    rw [Nat.zero_add]
    exact Nat.div_eq_of_lt (Nat.div_lt_self unitsPerOne_pos (by decide))
  rw [wholes, if_pos (isFinite_zero h), units_zero h, hhalf, Nat.min_zero]

theorem wholes_mono {m n : Magnitude} (h : m.rank ≤ n.rank) : m.wholes ≤ n.wholes := by
  unfold wholes
  by_cases hn : n.isFinite
  · rw [if_pos hn, if_pos (isFinite_of_le h hn)]
    have hquotient : (m.units + unitsPerOne / 2) / unitsPerOne ≤
        (n.units + unitsPerOne / 2) / unitsPerOne :=
      Nat.div_le_div_right (Nat.add_le_add_right (units_mono h) _)
    omega
  · rw [if_neg hn]
    split
    · exact Nat.min_le_left _ _
    · exact Nat.le_refl _

end Magnitude

theorem round_signed (s : Bool) (m : Magnitude) :
    (signed s m).round = if s then -(m.wholes : Int) else min maxInt64 m.wholes := by
  unfold round Magnitude.wholes
  by_cases hm : m.isFinite
  · have hwhole : ((m.units : Int) + (unitsPerOne : Nat) / 2) / (unitsPerOne : Nat) =
        ((m.units + unitsPerOne / 2) / unitsPerOne : Nat) := by
      generalize unitsPerOne = u
      norm_cast
    simp only [if_pos hm, hwhole]
    generalize (m.units + unitsPerOne / 2) / unitsPerOne = whole
    unfold maxInt64 minInt64
    cases s with
    | false =>
      simp only [Bool.false_eq_true, if_false]
      omega
    | true =>
      simp only [if_true]
      omega
  · simp only [if_neg hm]
    cases s <;> rfl

theorem round_mono {x y : Binary64} (h : x.le y) : x.round ≤ y.round := by
  obtain ⟨s, m, t, n, rfl, rfl, hmn⟩ := exists_signed_of_le h
  rw [round_signed, round_signed]
  unfold maxInt64
  cases s with
  | false =>
    cases t with
    | false =>
      have hwholes := Magnitude.wholes_mono (m := m) (n := n) (by simpa [place] using hmn)
      simp only [Bool.false_eq_true, if_false]
      omega
    | true =>
      obtain ⟨hm, hn⟩ := rank_eq_zero_of_place_le hmn
      rw [Magnitude.wholes_zero hm, Magnitude.wholes_zero hn]
      simp only [Bool.false_eq_true, if_false, if_true]
      omega
  | true =>
    cases t with
    | false =>
      simp only [if_true, Bool.false_eq_true, if_false]
      omega
    | true =>
      have hwholes := Magnitude.wholes_mono (m := n) (n := m) (by simpa [place] using hmn)
      simp only [if_true]
      omega

/-! ## Small whole numbers -/

section

variable {n : Nat}

theorem ofNat_mono {k : Nat} (h : k ≤ n) : (ofNat k).le (ofNat n) := by
  rw [ofNat_eq, ofNat_eq, le_signed_iff]
  apply Int.ofNat_le.2
  apply Magnitude.nearest_mono (by decide) (by decide)
  exact Nat.mul_le_mul_right 1 (Nat.mul_le_mul_right unitsPerOne h)

theorem ofNat_mul {k : Nat} (hk : k < 2 ^ 53) (hn : n < 2 ^ 53) :
    ofNat k * ofNat n = ofNat (k * n) := by
  rw [ofNat_eq, ofNat_eq, ofNat_eq,
    mul_signed (Magnitude.isFinite_whole hk) (Magnitude.isFinite_whole hn), Bool.bne_false,
    Magnitude.units_whole hk, Magnitude.units_whole hn]
  refine congrArg (signed false) (Magnitude.nearest_congr unitsPerOne_pos (by decide) ?_)
  ring

theorem round_ofNat (hn : n < 2 ^ 53) : (ofNat n).round = n := by
  have hwhole : (n * unitsPerOne + unitsPerOne / 2) / unitsPerOne = n := by
    have hhalf : unitsPerOne / 2 < unitsPerOne := Nat.div_lt_self unitsPerOne_pos (by decide)
    rw [Nat.mul_comm, Nat.mul_add_div unitsPerOne_pos, Nat.div_eq_of_lt hhalf, Nat.add_zero]
  rw [ofNat_eq, round_signed, Magnitude.wholes, if_pos (Magnitude.isFinite_whole hn),
    Magnitude.units_whole hn, hwhole, if_neg Bool.false_ne_true]
  unfold maxInt64
  omega

end

/-! ## Percentages -/

theorem mul_ofNat_mono {n : Nat} (hn : n < 2 ^ 53) (hpos : 0 < n) {x y : Binary64} (h : x.le y) :
    (x * ofNat n).le (y * ofNat n) := by
  have hrank : (Magnitude.nearest (n * unitsPerOne) 1).rank ≠ 0 := by
    intro hzero
    have hunits := Magnitude.units_whole hn
    rw [Magnitude.units_zero hzero] at hunits
    exact Nat.mul_ne_zero (Nat.ne_of_gt hpos) (Nat.ne_of_gt unitsPerOne_pos) hunits.symm
  rw [ofNat_eq]
  exact mul_mono (Magnitude.isFinite_whole hn) hrank h

/-- A number in hundredths, not rounded to a whole one yet. -/
theorem mul_hundred_mono {x y : Binary64} (h : x.le y) : (x * 100).le (y * 100) :=
  mul_ofNat_mono (by decide) (by decide) h

theorem percent_mono {x y : Binary64} (h : x.le y) : x.percent ≤ y.percent :=
  round_mono (mul_hundred_mono h)

theorem percent_ofNat {n : Nat} (hn : n * 100 < 2 ^ 53) : (ofNat n).percent = n * 100 := by
  have hproduct : ofNat n * ofNat 100 = ofNat (n * 100) := ofNat_mul (by omega) (by decide)
  show (ofNat n * ofNat 100).round = _
  rw [hproduct, round_ofNat hn, Nat.cast_mul]
  rfl

end CertaintyFactor.Binary64
