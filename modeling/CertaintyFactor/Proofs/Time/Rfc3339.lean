import CertaintyFactor.Proofs.Decimal.Digits
import CertaintyFactor.Proofs.Text.Blank
import CertaintyFactor.Proofs.Time.Calendar

/-!
# The text of an instant

An instant of the calendar is read back from its text (`Rfc3339.parse_text`), part by part: each
reader takes the digits that were written for it and stops at the mark after them.
-/

set_option autoImplicit false

namespace CertaintyFactor.Time.Rfc3339

variable {α β : Type}

/-- A reader goes on where the one before it stopped. -/
theorem run_bind {f : Reader α} {text rest : List Char} {a : α} (h : f.run text = .ok (a, rest))
    (g : α → Reader β) : (f >>= g).run text = (g a).run rest := by
  rw [StateT.run_bind, h]
  rfl

/-- A reader may look at its text first. -/
theorem run_get (text : List Char) : (get : Reader (List Char)).run text = .ok (text, text) :=
  rfl

/-- What no row of digits goes on with. -/
def Stops (rest : List Char) : Prop :=
  ∀ c ∈ rest.head?, c.isDigit = false

/-- Nothing is dropped before what is no blank. -/
theorem run_blanks {c : Char} (hc : Text.isBlank c = false) (rest : List Char) :
    blanks.run (c :: rest) = .ok ((), c :: rest) := by
  have htrim : Text.trimStart (c :: rest) = c :: rest :=
    List.dropWhile_cons_of_neg (by simp [hc])
  simp only [blanks, StateT.run_modify, htrim]
  rfl

theorem run_digits {row rest : List Char} (hne : row ≠ []) (hrow : ∀ c ∈ row, c.isDigit)
    (hrest : Stops rest) {most : Option Nat} (hmost : ∀ n ∈ most, row.length ≤ n) :
    (digits most).run (row ++ rest) = .ok (row, rest) := by
  obtain ⟨c, more, rfl⟩ := List.exists_cons_of_ne_nil hne
  have hc : c.isDigit := hrow c List.mem_cons_self
  have htake := Decimal.takeWhile_isDigit hrow hrest
  rw [digits, run_bind (run_get _)]
  cases most with
  | none =>
    simp only [List.cons_append, hc, Bool.not_true, Bool.false_eq_true, if_false]
    rw [← List.cons_append, htake, List.drop_left]
    rfl
  | some n =>
    simp only [List.cons_append, hc, Bool.not_true, Bool.false_eq_true, if_false]
    rw [← List.cons_append, htake, List.take_of_length_le (hmost n rfl), List.drop_left]
    rfl

theorem run_number {least most n : Nat} (hleast : least ≤ n) (hmost : n ≤ most) (hn : n < 100)
    {rest : List Char} (hrest : Stops rest) :
    (number least most).run (Decimal.padded 2 n ++ rest) = .ok (n, rest) := by
  have hdigit : ∀ c ∈ Decimal.padded 2 n, c.isDigit := fun _ => Decimal.isDigit_of_mem_padded
  have hlength : (Decimal.padded 2 n).length = 2 := Decimal.length_padded (by decide) hn
  have hvalue := Decimal.ofDigits_padded 2 n
  obtain ⟨c, row, hrow⟩ := List.exists_cons_of_ne_nil (Decimal.padded_ne_nil 2 n)
  rw [hrow] at hdigit hlength hvalue ⊢
  rw [number, List.cons_append,
    run_bind (run_blanks (Text.isBlank_of_isDigit (hdigit c List.mem_cons_self)) _),
    ← List.cons_append, run_bind (run_digits (List.cons_ne_nil c row) hdigit hrest
      (by rintro _ ⟨⟩; exact hlength.le)), hvalue, if_pos ⟨hleast, hmost⟩]
  rfl

theorem run_mark {c : Char} (hc : Text.isBlank c = false) (rest : List Char) :
    (mark c).run (c :: rest) = .ok ((), rest) := by
  rw [mark, run_bind (run_blanks hc rest),
    run_bind (run_get _)]
  dsimp only
  rw [if_pos rfl]
  rfl

/-- A year of four digits is read as such. -/
theorem run_year_plain {n : Nat} (hn : n < 10000) {rest : List Char} (hrest : Stops rest) :
    year.run (Decimal.padded 4 n ++ rest) = .ok ((n : Int), rest) := by
  have hdigit : ∀ c ∈ Decimal.padded 4 n, c.isDigit := fun _ => Decimal.isDigit_of_mem_padded
  have hlength : (Decimal.padded 4 n).length = 4 := Decimal.length_padded (by decide) hn
  have hvalue := Decimal.ofDigits_padded 4 n
  obtain ⟨c, row, hrow⟩ := List.exists_cons_of_ne_nil (Decimal.padded_ne_nil 4 n)
  rw [hrow] at hdigit hlength hvalue ⊢
  have hc : c.isDigit := hdigit c List.mem_cons_self
  rw [year, List.cons_append, run_bind (run_blanks (Text.isBlank_of_isDigit hc) _),
    run_bind (run_get _)]
  split
  · next h =>
    obtain rfl := (List.cons.inj h).1
    cases hc
  · next h =>
    obtain rfl := (List.cons.inj h).1
    cases hc
  · rw [← List.cons_append, run_bind (run_digits (List.cons_ne_nil c row) hdigit hrest
      (by rintro _ ⟨⟩; exact hlength.le)), hvalue]
    rfl

/-- A year with a sign is read with all its digits. -/
theorem run_year_signed {n : Nat} (hn : n ≤ maxYear) (negative : Bool) {rest : List Char}
    (hrest : Stops rest) :
    year.run ((if negative then '-' else '+') :: (Decimal.padded 4 n ++ rest)) =
      .ok (if negative then -(n : Int) else n, rest) := by
  have hdigits : (digits none).run (Decimal.padded 4 n ++ rest) = .ok (Decimal.padded 4 n, rest) :=
    run_digits (Decimal.padded_ne_nil 4 n) (fun _ => Decimal.isDigit_of_mem_padded) hrest nofun
  cases negative with
  | true =>
    have hminus (text : List Char) : year.run ('-' :: text) = (do
        let n := Decimal.ofDigits (← digits none)
        if maxYear + 1 < n then throw .outOfRange else return -n : Reader Int).run text := rfl
    rw [if_pos rfl, hminus, run_bind hdigits]
    simp only [Decimal.ofDigits_padded]
    rw [if_neg (by omega)]
    rfl
  | false =>
    have hplus (text : List Char) : year.run ('+' :: text) = (do
        let n := Decimal.ofDigits (← digits none)
        if maxYear < n then throw .outOfRange else return n : Reader Int).run text := rfl
    rw [if_neg Bool.false_ne_true, hplus, run_bind hdigits]
    simp only [Decimal.ofDigits_padded]
    rw [if_neg (by omega)]
    rfl

theorem run_year {y : Int} (hy : y.natAbs ≤ maxYear) {rest : List Char} (hrest : Stops rest) :
    year.run (yearText y ++ rest) = .ok (y, rest) := by
  unfold yearText
  split
  · next h =>
    simp only [Bool.and_eq_true, decide_eq_true_eq] at h
    have hvalue : (y.toNat : Int) = y := by omega
    rw [run_year_plain (by omega) hrest, hvalue]
  · have hread := run_year_signed hy (decide (y < 0)) hrest
    simp only [decide_eq_true_eq] at hread
    have hvalue : (if y < 0 then -(y.natAbs : Int) else y.natAbs) = y := by
      split <;> omega
    rw [hvalue] at hread
    exact hread

/-- A fraction of so many digits is read as such. -/
theorem run_fraction_padded {width n : Nat} (hwidth : 0 < width) (hwidth' : width ≤ 9)
    (hn : n < 10 ^ width) :
    fraction.run ('.' :: (Decimal.padded width n ++ ['Z'])) =
      .ok (n * 10 ^ (9 - width), ['Z']) := by
  have hlength : (Decimal.padded width n).length = width := Decimal.length_padded hwidth hn
  have hdigits : (digits (some 9)).run (Decimal.padded width n ++ ['Z']) =
      .ok (Decimal.padded width n, ['Z']) :=
    run_digits (Decimal.padded_ne_nil width n) (fun _ => Decimal.isDigit_of_mem_padded)
      (by rintro c ⟨⟩; rfl) (by rintro _ ⟨⟩; rw [hlength]; exact hwidth')
  have hpoint (text : List Char) : fraction.run ('.' :: text) = (do
      let row ← digits (some 9)
      modify (·.dropWhile Char.isDigit)
      return Decimal.ofDigits row * Nat.pow 10 (9 - row.length) : Reader Nat).run text := rfl
  have hend : (modify (·.dropWhile Char.isDigit) : Reader Unit).run ['Z'] = .ok ((), ['Z']) := rfl
  rw [hpoint, run_bind hdigits, run_bind hend, Decimal.ofDigits_padded, hlength]
  rfl

theorem run_fraction {nanos : Nat} (h : nanos < 1000000000) :
    fraction.run (fractionText nanos ++ ['Z']) = .ok (nanos, ['Z']) := by
  unfold fractionText
  split
  · next hzero =>
    rw [hzero]
    rfl
  split
  · next hmilli =>
    have hvalue : nanos / 1000000 * 10 ^ (9 - 3) = nanos := by omega
    rw [List.cons_append, run_fraction_padded (by decide) (by decide) (by omega), hvalue]
  split
  · next hmicro =>
    have hvalue : nanos / 1000 * 10 ^ (9 - 6) = nanos := by omega
    rw [List.cons_append, run_fraction_padded (by decide) (by decide) (by omega), hvalue]
  · rw [List.cons_append, run_fraction_padded (by decide) (by decide) h, Nat.sub_self,
      Nat.pow_zero, Nat.mul_one]

theorem run_offset : offset.run ['Z'] = .ok (0, []) :=
  rfl

theorem stops_cons {c : Char} (hc : c.isDigit = false) (rest : List Char) : Stops (c :: rest) := by
  rintro d ⟨⟩
  exact hc

theorem stops_fraction (nanos : Nat) (rest : List Char) :
    Stops (fractionText nanos ++ 'Z' :: rest) := by
  unfold fractionText
  repeat' split
  all_goals exact stops_cons rfl _

/-- A date and time within the bounds of their parts are read as they were written. -/
theorem run_civil {c : Civil} (hyear : c.date.year.natAbs ≤ maxYear)
    (hmonth : 1 ≤ c.date.month ∧ c.date.month ≤ 12) (hday : 1 ≤ c.date.day ∧ c.date.day ≤ 31)
    (hhour : c.hour ≤ 23) (hminute : c.minute ≤ 59) (hsecond : c.second ≤ 60)
    (hnanos : c.nanos < 1000000000) :
    civil.run (dateText c.date ++ 'T' :: timeText c ++ fractionText c.nanos ++ ['Z']) =
      .ok ((c, 0), []) := by
  have hstop : Stops (fractionText c.nanos ++ ['Z']) := stops_fraction c.nanos []
  have hseparator (rest : List Char) : separator.run ('T' :: rest) = .ok ((), rest) := rfl
  simp only [dateText, timeText, List.append_assoc, List.cons_append]
  rw [civil, run_bind (run_year hyear (stops_cons rfl _)), run_bind (run_mark rfl _),
    run_bind (run_number hmonth.1 hmonth.2 (by omega) (stops_cons rfl _)),
    run_bind (run_mark rfl _),
    run_bind (run_number hday.1 hday.2 (by omega) (stops_cons rfl _)),
    run_bind (hseparator _),
    run_bind (run_number (Nat.zero_le _) hhour (by omega) (stops_cons rfl _)),
    run_bind (run_mark rfl _),
    run_bind (run_number (Nat.zero_le _) hminute (by omega) (stops_cons rfl _)),
    run_bind (run_mark rfl _),
    run_bind (run_number (Nat.zero_le _) hsecond (by omega) hstop),
    run_bind (run_fraction hnanos), run_bind run_offset]
  rfl

/-- An instant of the calendar is read as it was written. -/
theorem parse_text {i : Instant} (h : IsValid i) : parse (text i) = .ok i := by
  have hcalendar := h.inCalendar
  have hnanos := h.nanos_lt
  simp only [inCalendar, Bool.and_eq_true, decide_eq_true_eq] at hcalendar
  have hrun : civil.run (text i).toList = .ok ((Civil.ofInstant i, 0), []) := by
    simp only [text, String.toList_ofList]
    refine run_civil ?_ (Date.month_ofDays _) ⟨(Date.day_ofDays _).1, Date.day_ofDays_le _⟩ ?_ ?_
      (Civil.second_ofInstant h) ?_
    · simp only [firstYear, lastYear, maxYear] at hcalendar ⊢
      omega
    · simp only [Civil.ofInstant]
      omega
    · simp only [Civil.ofInstant]
      omega
    · simp only [Civil.ofInstant]
      omega
  have hexists : (Civil.ofInstant i).date.exists := Date.exists_ofDays hcalendar.1 hcalendar.2
  rw [parse, hrun]
  change (do
    if !(Civil.ofInstant i).date.exists then throw .outOfRange
    if inCalendar ((Civil.ofInstant i).toInstant 0) then
      return (Civil.ofInstant i).toInstant 0
    else throw .impossible : Except Error Instant) = _
  rw [hexists, Civil.toInstant_ofInstant h, h.inCalendar]
  rfl

theorem normalize_text {i : Instant} (h : IsValid i) : normalize (text i) = .ok (text i) := by
  rw [normalize, parse_text h]

end CertaintyFactor.Time.Rfc3339
