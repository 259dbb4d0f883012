import CertaintyFactor.Decimal.Numeral
import CertaintyFactor.Proofs.Decimal.Shortest
import CertaintyFactor.Proofs.Text.Blank
import Mathlib.Data.List.TakeDrop

/-!
# Numerals read what messages write

A number in a message is written as a numeral, and that numeral is read as the number again,
whatever its size, infinities and NaN included (`Numeral.read?_text`). Messages use no exponents:
digits stand around a point or before none (`IsPositional`), with zeros filled in. What they write
is the shortest decimal of the number up to zeros at its end, and these count like the exponent.
-/

set_option autoImplicit false

namespace CertaintyFactor

namespace Binary64

/-- The magnitude of a decimal does not depend on its sign. -/
theorem exists_ofDecimal (digits : Nat) (exponent : Int) :
    ∃ m, ∀ negative, ofDecimal negative digits exponent = .signed negative m := by
  simp only [ofDecimal_eq, ofRatio]
  split_ifs
  · exact ⟨_, fun _ => rfl⟩
  · exact ⟨_, fun _ => rfl⟩
  · exact ⟨_, fun _ => rfl⟩
  · exact ⟨_, fun _ => rfl⟩

theorem Magnitude.ReadsBack.toBinary64_eq {m : Magnitude} {d : Decimal} (h : m.ReadsBack d)
    (negative : Bool) : d.toBinary64 negative = .signed negative m := by
  obtain ⟨n, hn⟩ := exists_ofDecimal d.digits d.exponent
  have hnm : n = m := (signed.inj ((hn false).symm.trans h)).2
  exact hnm ▸ hn negative

/-- Zeros at the end of the digits count like the exponent. -/
theorem ofDecimal_mul_ten_pow {digits : Nat} (hdigits : digits ≠ 0) (negative : Bool) (k : Nat)
    (exponent : Int) :
    ofDecimal negative (digits * 10 ^ k) exponent = ofDecimal negative digits (exponent + k) := by
  induction k generalizing exponent with
  | zero => rw [Nat.pow_zero, Nat.mul_one, Nat.cast_zero, Int.add_zero]
  | succ k ih =>
    have hne : digits * 10 ^ k ≠ 0 := Nat.mul_ne_zero hdigits (Nat.pow_pos (by decide)).ne'
    have hten : digits * 10 ^ (k + 1) = 10 * (digits * 10 ^ k) := by ring
    have hexponent : exponent + 1 + k = exponent + (k + 1 : Nat) := by omega
    rw [hten, ofDecimal_mul_ten hne, ih, hexponent]

namespace Magnitude

theorem eq_of_rank {m n : Magnitude} (h : m.rank = n.rank) : m = n := by
  cases m
  cases n
  cases h
  rfl

theorem eq_infinity {m : Magnitude} (hm : ¬m.isFinite) : m = .infinity := by
  have hge : topRank ≤ m.rank := by
    rw [← Nat.not_lt]
    exact fun hlt => hm (decide_eq_true hlt)
  exact eq_of_rank (Nat.le_antisymm m.rank_le hge)

end Magnitude

end Binary64

namespace Decimal.Numeral

/-! ## Digits around a point -/

/-- Digits, and a point with more digits behind it or not, with the decimal they write. -/
inductive IsPositional : List Char → Decimal → Prop
  | whole {row : List Char} (hrow : ∀ c ∈ row, c.isDigit) (hne : row ≠ []) :
      IsPositional row ⟨ofDigits row, 0⟩
  | point {row part : List Char} (hrow : ∀ c ∈ row, c.isDigit) (hne : row ≠ [])
      (hpart : ∀ c ∈ part, c.isDigit) :
      IsPositional (row ++ '.' :: part) ⟨ofDigits (row ++ part), -part.length⟩

theorem span_isDigit {row rest : List Char} (hrow : ∀ c ∈ row, c.isDigit)
    (hrest : ∀ c ∈ rest.head?, c.isDigit = false) :
    (row ++ rest).span Char.isDigit = (row, rest) := by
  rw [List.span_eq_takeWhile_dropWhile, takeWhile_isDigit hrow hrest, dropWhile_isDigit hrow hrest]

theorem span_isDigit_self {row : List Char} (hrow : ∀ c ∈ row, c.isDigit) :
    row.span Char.isDigit = (row, []) := by
  have hspan : (row ++ []).span Char.isDigit = (row, []) := span_isDigit hrow nofun
  rwa [List.append_nil] at hspan

namespace IsPositional

variable {text : List Char} {d : Decimal}

theorem decimal?_eq (h : IsPositional text d) : decimal? text = some d := by
  cases h with
  | whole hrow hne =>
    rw [decimal?, span_isDigit_self hrow]
    simp [fraction, exponent?, hne]
  | @point row part hrow hne hpart =>
    have hpoint : ∀ c ∈ ('.' :: part).head?, c.isDigit = false := by
      rintro _ ⟨⟩
      rfl
    have hfraction : fraction ('.' :: part) = (part, []) := span_isDigit_self hpart
    rw [decimal?, span_isDigit hrow hpoint]
    simp [hfraction, exponent?, hne]

theorem exists_cons (h : IsPositional text d) : ∃ c more, text = c :: more ∧ c.isDigit := by
  cases h with
  | whole hrow hne =>
    obtain ⟨c, more, rfl⟩ := List.exists_cons_of_ne_nil hne
    exact ⟨c, more, rfl, hrow c List.mem_cons_self⟩
  | point hrow hne _ =>
    obtain ⟨c, more, rfl⟩ := List.exists_cons_of_ne_nil hne
    exact ⟨c, _, rfl, hrow c List.mem_cons_self⟩

theorem isBlank_eq_false (h : IsPositional text d) : ∀ c ∈ text, Text.isBlank c = false := by
  cases h with
  | whole hrow _ => exact fun c hc => Text.isBlank_of_isDigit (hrow c hc)
  | point hrow _ hpart =>
    intro c hc
    rcases List.mem_append.1 hc with hc | hc
    · exact Text.isBlank_of_isDigit (hrow c hc)
    rcases List.mem_cons.1 hc with rfl | hc
    · rfl
    · exact Text.isBlank_of_isDigit (hpart c hc)

end IsPositional

/-- The digits of a decimal set out around the point are read as it is. -/
theorem exists_isPositional {d : Decimal} (hdigits : d.digits ≠ 0) :
    ∃ e, IsPositional (Layout.plain.positionalText d) e ∧
      ∀ negative, e.toBinary64 negative = d.toBinary64 negative := by
  unfold Layout.positionalText
  cases hexponent : d.exponent with
  | ofNat k =>
    have hrow : ∀ c ∈ toDigits d.digits ++ List.replicate k '0', c.isDigit := by
      intro c hc
      rcases List.mem_append.1 hc with hc | hc
      · exact isDigit_of_mem_toDigits hc
      · rw [List.eq_of_mem_replicate hc]
        rfl
    have hne : toDigits d.digits ++ List.replicate k '0' ≠ [] :=
      List.append_ne_nil_of_left_ne_nil (toDigits_ne_nil _) _
    have hvalue : ofDigits (toDigits d.digits ++ List.replicate k '0') = d.digits * 10 ^ k := by
      rw [ofDigits_append, ofDigits_replicate_zero, List.length_replicate, ofDigits_toDigits,
        Nat.add_zero, Nat.mul_comm]
    change ∃ e, IsPositional (toDigits d.digits ++ List.replicate k '0' ++ []) e ∧ _
    rw [List.append_nil]
    refine ⟨_, .whole hrow hne, fun negative => ?_⟩
    rw [hvalue, toBinary64, toBinary64, Binary64.ofDecimal_mul_ten_pow hdigits, hexponent,
      Int.zero_add]
    rfl
  | negSucc k =>
    -- The padded row has at least one digit more than go behind the point.
    have hdigit : ∀ c ∈ padded (k + 2) d.digits, c.isDigit := fun _ => isDigit_of_mem_padded
    have hlength : k + 2 ≤ (padded (k + 2) d.digits).length := by
      rw [length_padded_eq]
      exact Nat.le_max_left _ _
    have hvalue := ofDigits_padded (k + 2) d.digits
    change ∃ e, IsPositional
      ((padded (k + 2) d.digits).take ((padded (k + 2) d.digits).length - (k + 1)) ++
        '.' :: (padded (k + 2) d.digits).drop ((padded (k + 2) d.digits).length - (k + 1))) e ∧ _
    generalize padded (k + 2) d.digits = row at hdigit hlength hvalue ⊢
    have hne : row.take (row.length - (k + 1)) ≠ [] := by
      rw [← List.length_pos_iff, List.length_take]
      omega
    have hplaces : -((row.drop (row.length - (k + 1))).length : Int) = Int.negSucc k := by
      rw [List.length_drop]
      omega
    refine ⟨_, .point (fun c hc => hdigit c (List.mem_of_mem_take hc)) hne
      (fun c hc => hdigit c (List.mem_of_mem_drop hc)), fun negative => ?_⟩
    rw [List.take_append_drop, hvalue, hplaces, ← hexponent]

theorem exists_isPositional_magnitudeText {m : Binary64.Magnitude} (hm : m.isFinite) :
    ∃ e, IsPositional (Layout.plain.magnitudeText m) e ∧
      ∀ negative, e.toBinary64 negative = .signed negative m := by
  unfold Layout.magnitudeText
  split
  · next hrank =>
    refine ⟨⟨0, 0⟩, .whole (List.forall_mem_singleton.2 rfl) (List.cons_ne_nil _ _), fun _ => ?_⟩
    rw [Binary64.Magnitude.eq_of_rank (n := .zero) hrank]
    rfl
  · next hrank =>
    have hreads := Binary64.Magnitude.readsBack_shortest hm hrank Layout.plain.tie
    obtain ⟨hdigits, -, -⟩ := Binary64.nearest_of_readsBack hm hrank hreads
    obtain ⟨e, he, hvalue⟩ := exists_isPositional hdigits
    exact ⟨e, he, fun negative => (hvalue negative).trans (hreads.toBinary64_eq negative)⟩

/-! ## Signs and words -/

theorem toLower_of_isDigit {c : Char} (h : c.isDigit) : c.toLower = c := by
  have hcapital : ¬(c.val ≥ 'A'.val ∧ c.val ≤ 'Z'.val) := by
    simp only [Char.isDigit, Bool.and_eq_true, decide_eq_true_eq] at h
    rintro ⟨hleast, -⟩
    exact absurd (UInt32.le_trans hleast h.2) (by decide)
  exact dif_neg hcapital

/-- What begins with a digit is none of the words. -/
theorem read?_signed {c : Char} (hc : c.isDigit) (rest : List Char) (negative : Bool) :
    read? ((if negative then ['-'] else []) ++ c :: rest) =
      (decimal? (c :: rest)).map (·.toBinary64 negative) := by
  have hsign : sign ((if negative then ['-'] else []) ++ c :: rest) = (negative, c :: rest) := by
    cases negative with
    | true => rfl
    | false =>
      simp only [Bool.false_eq_true, if_false, List.nil_append, sign]
      split
      · next h => cases (List.cons.inj h).1 ▸ hc
      · next h => cases (List.cons.inj h).1 ▸ hc
      · rfl
  have hword {d : Char} (hd : d.isDigit = false) (more : List Char) :
      String.ofList ((c :: rest).map Char.toLower) ≠ String.ofList (d :: more) := by
    intro h
    have hhead := (List.cons.inj (String.ofList_injective h)).1
    rw [toLower_of_isDigit hc] at hhead
    exact Bool.false_ne_true (hd.symm.trans (hhead ▸ hc))
  rw [read?, hsign]
  dsimp only
  split
  · next h => exact absurd h (hword (d := 'n') rfl _)
  · next h => exact absurd h (hword (d := 'i') rfl _)
  · next h => exact absurd h (hword (d := 'i') rfl _)
  · rfl

/-! ## Numbers in messages -/

theorem toList_text {negative : Bool} {m : Binary64.Magnitude} (hm : m.isFinite) :
    (Layout.plain.text (.signed negative m)).toList =
      (if negative then ['-'] else []) ++ Layout.plain.magnitudeText m := by
  simp only [Layout.text, hm, if_true, String.toList_ofList]

/-- The text of a number is read as that number. -/
theorem read?_text (x : Binary64) : read? (Layout.plain.text x).toList = some x := by
  cases x with
  | nan => rfl
  | signed negative m =>
    by_cases hm : m.isFinite
    · obtain ⟨e, he, hvalue⟩ := exists_isPositional_magnitudeText hm
      obtain ⟨c, more, hmore, hc⟩ := he.exists_cons
      rw [toList_text hm, hmore, read?_signed hc, ← hmore, he.decimal?_eq, Option.map_some,
        hvalue]
    · obtain rfl := Binary64.Magnitude.eq_infinity hm
      cases negative <;> rfl

theorem isBlank_text (x : Binary64) :
    ∀ c ∈ (Layout.plain.text x).toList, Text.isBlank c = false := by
  cases x with
  | nan => exact Text.forall_isBlank_eq_false_iff.2 rfl
  | signed negative m =>
    by_cases hm : m.isFinite
    · obtain ⟨e, he, -⟩ := exists_isPositional_magnitudeText hm
      rw [toList_text hm, List.forall_mem_append]
      refine ⟨Text.forall_isBlank_eq_false_iff.2 ?_, he.isBlank_eq_false⟩
      cases negative <;> rfl
    · obtain rfl := Binary64.Magnitude.eq_infinity hm
      rw [Text.forall_isBlank_eq_false_iff]
      cases negative <;> rfl

end Decimal.Numeral

end CertaintyFactor
