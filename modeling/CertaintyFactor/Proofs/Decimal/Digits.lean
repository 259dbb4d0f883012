import CertaintyFactor.Decimal.Basic
import Mathlib.Tactic.Ring

/-!
# Rows of digits

The digits of a number write that number, also when they are padded with zeros, and a row of digits
is read in one piece.
-/

set_option autoImplicit false

namespace CertaintyFactor.Decimal

@[simp] theorem ofDigits_toDigits (n : Nat) : ofDigits (toDigits n) = n :=
  Nat.ofDigitChars_ten_toDigits

theorem isDigit_of_mem_toDigits {n : Nat} {c : Char} (h : c ∈ toDigits n) : c.isDigit :=
  Nat.isDigit_of_mem_toDigits (by decide) (by decide) h

theorem toDigits_ne_nil (n : Nat) : toDigits n ≠ [] :=
  Nat.toDigits_ne_nil

theorem length_toDigits_le_iff {n k : Nat} (hk : 0 < k) : (toDigits n).length ≤ k ↔ n < 10 ^ k :=
  Nat.length_toDigits_le_iff (by decide) hk

theorem ofDigits_append (row row' : List Char) :
    ofDigits (row ++ row') = 10 ^ row'.length * ofDigits row + ofDigits row' :=
  (Nat.ofDigitChars_append 0).trans Nat.ofDigitChars_eq_ofDigitChars_zero

theorem ofDigits_cons (c : Char) (row : List Char) :
    ofDigits (c :: row) = 10 ^ row.length * digitValue c + ofDigits row := by
  rw [← List.singleton_append, ofDigits_append]
  simp [ofDigits]

theorem ofDigits_replicate_zero (k : Nat) : ofDigits (List.replicate k '0') = 0 :=
  (Nat.ofDigitChars_replicate_zero (b := 10)).trans (Nat.mul_zero _)

theorem digitValue_lt {c : Char} (h : c.isDigit) : digitValue c < 10 := by
  simp only [Char.isDigit, Bool.and_eq_true, decide_eq_true_eq] at h
  have hle : c.toNat ≤ 57 := h.2
  simp only [digitValue, Char.reduceToNat]
  omega

theorem ofDigits_lt {row : List Char} (h : ∀ c ∈ row, c.isDigit) :
    ofDigits row < 10 ^ row.length := by
  induction row with
  | nil => decide
  | cons c row ih =>
    have hrow := ih fun d hd => h d (List.mem_cons_of_mem c hd)
    have hc := digitValue_lt (h c List.mem_cons_self)
    have hsplit := ofDigits_cons c row
    calc ofDigits (c :: row)
        < 10 ^ row.length * digitValue c + 10 ^ row.length := by omega
      _ = 10 ^ row.length * (digitValue c + 1) := by rw [Nat.mul_succ]
      _ ≤ 10 ^ row.length * 10 := Nat.mul_le_mul_left _ hc
      _ = 10 ^ (c :: row).length := rfl

/-- Only zero is written with a zero in front. -/
theorem head?_toDigits {n : Nat} (h : n ≠ 0) : (toDigits n).head? ≠ some '0' := by
  intro hhead
  obtain ⟨row, hrow⟩ : ∃ row, toDigits n = '0' :: row := by
    cases hn : toDigits n with
    | nil => exact absurd hn (toDigits_ne_nil n)
    | cons c row =>
      rw [hn] at hhead
      exact ⟨row, by rw [Option.some.inj hhead]⟩
  have hvalue : ofDigits row = n := by
    have htail : ofDigits ('0' :: row) = ofDigits row := rfl
    rw [← htail, ← hrow, ofDigits_toDigits]
  have hdigit : ∀ c ∈ row, c.isDigit := fun c hc =>
    isDigit_of_mem_toDigits (n := n) (hrow ▸ List.mem_cons_of_mem _ hc)
  have hlt : n < 10 ^ row.length := hvalue ▸ ofDigits_lt hdigit
  have hpos : 0 < row.length := by
    rw [List.length_pos_iff]
    rintro rfl
    exact h (hvalue ▸ rfl)
  have hle := (length_toDigits_le_iff hpos).2 hlt
  rw [hrow, List.length_cons] at hle
  omega

theorem isDigit_of_mem_padded {width n : Nat} {c : Char} (h : c ∈ padded width n) : c.isDigit := by
  rcases List.mem_append.1 h with h | h
  · rw [List.eq_of_mem_replicate h]
    rfl
  · exact isDigit_of_mem_toDigits h

@[simp] theorem ofDigits_padded (width n : Nat) : ofDigits (padded width n) = n := by
  simp only [padded]
  rw [ofDigits_append, ofDigits_replicate_zero, ofDigits_toDigits, Nat.mul_zero, Nat.zero_add]

theorem length_padded_eq (width n : Nat) :
    (padded width n).length = max width (toDigits n).length := by
  simp only [padded, List.length_append, List.length_replicate]
  omega

theorem length_padded {width n : Nat} (hwidth : 0 < width) (h : n < 10 ^ width) :
    (padded width n).length = width := by
  rw [length_padded_eq]
  exact Nat.max_eq_left ((length_toDigits_le_iff hwidth).2 h)

theorem padded_ne_nil (width n : Nat) : padded width n ≠ [] :=
  List.append_ne_nil_of_right_ne_nil _ (toDigits_ne_nil n)

/-! ## Rows in a text -/

section

variable {row rest : List Char} (hrow : ∀ c ∈ row, c.isDigit)
  (hrest : ∀ c ∈ rest.head?, c.isDigit = false)

include hrow hrest

/-- A row of digits ends where the text goes on with something else. -/
theorem takeWhile_isDigit : (row ++ rest).takeWhile Char.isDigit = row := by
  rw [List.takeWhile_append_of_pos hrow]
  cases rest with
  | nil => exact List.append_nil row
  | cons c rest =>
    rw [List.takeWhile_cons_of_neg (by simp [hrest c rfl]), List.append_nil]

theorem dropWhile_isDigit : (row ++ rest).dropWhile Char.isDigit = rest := by
  rw [List.dropWhile_append_of_pos hrow]
  cases rest with
  | nil => rfl
  | cons c rest => exact List.dropWhile_cons_of_neg (by simp [hrest c rfl])

end

end CertaintyFactor.Decimal
