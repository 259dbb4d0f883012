import CertaintyFactor.Time.Rfc3339

/-!
# The calendar

Counting days forth and back ends at the same day, and every day that is counted to is one of the
calendar. An era of 400 years falls into centuries, these into rows of four years and these into
years, and the year of a day is read off those parts. What is left is the day of a year that begins
in March.
-/

set_option autoImplicit false

namespace CertaintyFactor.Time

/-! ## Years -/

/-- A day of an era: its century, the row of four years in it, the year in that row, and the day in
that year. Only a year before a leap day has 366 days. -/
structure EraDay where
  century : Nat
  row : Nat
  year : Nat
  day : Nat
  century_le : century ≤ 3
  row_le : row ≤ 24
  year_le : year ≤ 3
  day_le : day ≤ 365
  leap : day = 365 → year = 3 ∧ (row = 24 → century = 3)

namespace EraDay

/-- The number of days before it in the era. -/
def days (d : EraDay) : Nat :=
  36524 * d.century + 1461 * d.row + 365 * d.year + d.day

/-- The number of years before it in the era. -/
def years (d : EraDay) : Nat :=
  100 * d.century + 4 * d.row + d.year

theorem years_le (d : EraDay) : d.years ≤ 399 := by
  obtain ⟨b, k, j, doy, hb, hk, hj, hdoy, hleap⟩ := d
  simp only [years]
  omega

/-- The years before a day by the number of days before it. -/
theorem years_eq (d : EraDay) :
    (d.days - d.days / 1460 + d.days / 36524 - d.days / 146096) / 365 = d.years := by
  obtain ⟨b, k, j, doy, hb, hk, hj, hdoy, hleap⟩ := d
  simp only [days, years]
  have hcenturies : (36524 * b + 1461 * k + 365 * j + doy) / 36524 -
      (36524 * b + 1461 * k + 365 * j + doy) / 146096 = b := by
    omega
  have hle : (36524 * b + 1461 * k + 365 * j + doy) / 146096 ≤
      (36524 * b + 1461 * k + 365 * j + doy) / 36524 := by
    omega
  have hrows : (36524 * b + 1461 * k + 365 * j + doy) / 1460 =
      25 * b + k + (24 * b + k + 365 * j + doy) / 1460 := by
    omega
  have hyear : 365 * j ≤ 365 * j + doy - (24 * b + k + 365 * j + doy) / 1460 ∧
      365 * j + doy - (24 * b + k + 365 * j + doy) / 1460 < 365 * j + 365 ∧
      (24 * b + k + 365 * j + doy) / 1460 ≤ 365 * j + doy := by
    omega
  have hsum : 36524 * b + 1461 * k + 365 * j + doy - (36524 * b + 1461 * k + 365 * j + doy) / 1460 +
      (36524 * b + 1461 * k + 365 * j + doy) / 36524 -
      (36524 * b + 1461 * k + 365 * j + doy) / 146096 =
        365 * (100 * b + 4 * k) + (365 * j + doy - (24 * b + k + 365 * j + doy) / 1460) := by
    omega
  rw [hsum]
  omega

theorem days_eq (d : EraDay) :
    d.days = 365 * d.years + d.years / 4 - d.years / 100 + d.day := by
  obtain ⟨b, k, j, doy, hb, hk, hj, hdoy, hleap⟩ := d
  simp only [days, years]
  omega

/-- Every day of an era has such a place. -/
theorem exists_days {n : Nat} (h : n < 146097) : ∃ d : EraDay, d.days = n := by
  have hparts : ∃ b k j doy, b ≤ 3 ∧ k ≤ 24 ∧ j ≤ 3 ∧ doy ≤ 365 ∧
      (doy = 365 → j = 3 ∧ (k = 24 → b = 3)) ∧ 36524 * b + 1461 * k + 365 * j + doy = n := by
    refine ⟨min (n / 36524) 3, (n - 36524 * min (n / 36524) 3) / 1461,
      min ((n - 36524 * min (n / 36524) 3) % 1461 / 365) 3,
      (n - 36524 * min (n / 36524) 3) % 1461 -
        365 * min ((n - 36524 * min (n / 36524) 3) % 1461 / 365) 3, ?_⟩
    omega
  obtain ⟨b, k, j, doy, hb, hk, hj, hdoy, hleap, hn⟩ := hparts
  exact ⟨⟨b, k, j, doy, hb, hk, hj, hdoy, hleap⟩, hn⟩

end EraDay

/-! ## Days -/

namespace Date

/-- The date of a day in a year that begins in March. -/
def ofYearDay (year : Int) (day : Nat) : Date :=
  let month := (5 * day + 2) / 153
  { year := if month < 10 then year else year + 1
    month := if month < 10 then month + 3 else month - 9
    day := day - daysBeforeMonth month + 1 }

/-- The date of a number of days, by its era and its place there. -/
theorem exists_ofDays_eq (days : Int) : ∃ (era : Int) (d : EraDay),
    days + 719468 = 146097 * era + d.days ∧
      ofDays days = ofYearDay (d.years + era * 400) d.day := by
  have hlt : ((days + 719468) % 146097).toNat < 146097 := by omega
  obtain ⟨d, hd⟩ := EraDay.exists_days hlt
  refine ⟨(days + 719468) / 146097, d, by omega, ?_⟩
  have hday : d.days - (365 * d.years + d.years / 4 - d.years / 100) = d.day := by
    rw [d.days_eq]
    omega
  simp only [ofDays, ← hd, d.years_eq, hday]
  rfl

/-- The months of a year that begins in March, with the days before them. -/
theorem month_of_day : ∀ day ≤ 365,
    (5 * day + 2) / 153 ≤ 11 ∧ daysBeforeMonth ((5 * day + 2) / 153) ≤ day := by
  intro day h
  simp only [daysBeforeMonth]
  omega

theorem toDays_ofYearDay (year : Int) {day : Nat} (h : day ≤ 365) :
    (ofYearDay year day).toDays = daysBeforeYear year + day - 719468 := by
  obtain ⟨hmonth, hbefore⟩ := month_of_day day h
  simp only [ofYearDay]
  generalize (5 * day + 2) / 153 = month at *
  simp only [toDays]
  by_cases hlate : month < 10
  · have hsame : (month + 3 + 9) % 12 = month := by omega
    simp only [if_pos hlate, hsame]
    rw [if_neg (by omega)]
    omega
  · have hsame : (month - 9 + 9) % 12 = month := by omega
    simp only [if_neg hlate, hsame]
    rw [if_pos (by omega)]
    have hyear : year + 1 - 1 = year := by omega
    rw [hyear]
    omega

theorem daysBeforeYear_add_era (years : Nat) (h : years ≤ 399) (era : Int) :
    daysBeforeYear (years + era * 400) =
      146097 * era + (365 * years + years / 4 - years / 100 : Nat) := by
  unfold daysBeforeYear
  omega

/-- Counting to a date and back is no change. -/
theorem toDays_ofDays (days : Int) : (ofDays days).toDays = days := by
  obtain ⟨era, d, hdays, hdate⟩ := exists_ofDays_eq days
  have hd := d.days_eq
  rw [hdate, toDays_ofYearDay _ d.day_le, daysBeforeYear_add_era _ d.years_le]
  omega

/-- Only February has a length that depends on the year. -/
theorem daysInMonth_of_ne_two {month : Nat} (h : month ≠ 2) (year : Int) :
    daysInMonth year month = daysInMonth 0 month := by
  unfold daysInMonth
  split <;> simp_all

/-- The days of the months of a year that begins in March; only the last one reaches the day that
leap years have more. -/
theorem length_of_month : ∀ day ≤ 365,
    ((5 * day + 2) / 153 < 10 → day - daysBeforeMonth ((5 * day + 2) / 153) + 1 ≤
      daysInMonth 0 ((5 * day + 2) / 153 + 3)) ∧
    ((5 * day + 2) / 153 = 10 → day - daysBeforeMonth ((5 * day + 2) / 153) + 1 ≤ 31) ∧
    ((5 * day + 2) / 153 = 11 → day - daysBeforeMonth ((5 * day + 2) / 153) + 1 ≤
      if day = 365 then 29 else 28) := by
  decide +kernel

/-- A year that begins in March and has 366 days ends in a leap year. -/
theorem isLeapYear_of_day {d : EraDay} (h : d.day = 365) (era : Int) :
    isLeapYear (d.years + era * 400 + 1) := by
  obtain ⟨hyear, hrow⟩ := d.leap h
  have hcentury := d.century_le
  have hle := d.row_le
  have hyears : (d.years : Int) = 100 * d.century + 4 * d.row + d.year := by
    simp only [EraDay.years]
    omega
  generalize hsum : (d.years : Int) + era * 400 + 1 = year
  simp only [isLeapYear, Bool.and_eq_true, Bool.or_eq_true, decide_eq_true_eq]
  omega

theorem month_ofDays (days : Int) : 1 ≤ (ofDays days).month ∧ (ofDays days).month ≤ 12 := by
  obtain ⟨era, d, -, hdate⟩ := exists_ofDays_eq days
  have hmonth := (month_of_day d.day d.day_le).1
  rw [hdate]
  simp only [ofYearDay]
  split <;> omega

/-- Every day that is counted to has a place in its month. -/
theorem day_ofDays (days : Int) :
    1 ≤ (ofDays days).day ∧
      (ofDays days).day ≤ daysInMonth (ofDays days).year (ofDays days).month := by
  obtain ⟨era, d, -, hdate⟩ := exists_ofDays_eq days
  obtain ⟨hmonth, -⟩ := month_of_day d.day d.day_le
  obtain ⟨hearly, hjanuary, hfebruary⟩ := length_of_month d.day d.day_le
  have hleap (h : d.day = 365) := isLeapYear_of_day h era
  rw [hdate]
  simp only [ofYearDay]
  generalize (5 * d.day + 2) / 153 = month at *
  refine ⟨by omega, ?_⟩
  by_cases hlate : month < 10
  · rw [if_pos hlate, if_pos hlate, daysInMonth_of_ne_two (by omega)]
    exact hearly hlate
  rw [if_neg hlate, if_neg hlate]
  obtain rfl | rfl : month = 10 ∨ month = 11 := by omega
  · exact hjanuary rfl
  · refine Nat.le_trans (hfebruary rfl) ?_
    show _ ≤ if isLeapYear (d.years + era * 400 + 1) then 29 else 28
    split
    · next h => exact Nat.le_of_eq (if_pos (hleap h)).symm
    · split <;> omega

theorem day_ofDays_le (days : Int) : (ofDays days).day ≤ 31 := by
  have hlength (year : Int) (month : Nat) : daysInMonth year month ≤ 31 := by
    unfold daysInMonth
    repeat' split
    all_goals decide
  exact Nat.le_trans (day_ofDays days).2 (hlength _ _)

/-- Every day that is counted to within the years of the calendar is one of it. -/
theorem exists_ofDays {days : Int} (hfirst : firstYear ≤ (ofDays days).year)
    (hlast : (ofDays days).year ≤ lastYear) : (ofDays days).exists := by
  obtain ⟨hday, hlength⟩ := day_ofDays days
  simp only [Date.exists, hfirst, hlast, hday, hlength, decide_true, Bool.and_self]

end Date

/-! ## Instants -/

/-- An instant of the calendar. Only the last second of a minute may be followed by a leap
second. -/
structure IsValid (i : Instant) : Prop where
  inCalendar : Rfc3339.inCalendar i
  nanos_lt : i.nanos < 2000000000
  leap : 1000000000 ≤ i.nanos → i.seconds % 60 = 59

namespace Civil

theorem toInstant_of_ne {c : Civil} (h : c.second ≠ 60) (offset : Int) :
    c.toInstant offset = ⟨c.date.toDays * 86400 +
      (c.hour * 3600 + c.minute * 60 + c.second : Nat) - offset, c.nanos⟩ := by
  simp [toInstant, h]

/-- A leap second shares its count with the second before it. -/
theorem toInstant_of_eq {c : Civil} (h : c.second = 60) (offset : Int) :
    c.toInstant offset = ⟨c.date.toDays * 86400 +
      (c.hour * 3600 + c.minute * 60 + 59 : Nat) - offset, c.nanos + 1000000000⟩ := by
  simp [toInstant, h]

/-- The date and time of an instant tell it. -/
theorem toInstant_ofInstant {i : Instant} (h : IsValid i) : (ofInstant i).toInstant 0 = i := by
  have hnanos := h.nanos_lt
  have hleap := h.leap
  obtain ⟨seconds, nanos⟩ := i
  dsimp only at hnanos hleap
  by_cases hin : 1000000000 ≤ nanos
  · have hsixty : (ofInstant ⟨seconds, nanos⟩).second = 60 := by
      have hlast := hleap hin
      simp only [ofInstant]
      omega
    rw [toInstant_of_eq hsixty]
    simp only [ofInstant, Date.toDays_ofDays, Instant.mk.injEq]
    have hlast := hleap hin
    omega
  · have hsecond : (ofInstant ⟨seconds, nanos⟩).second ≠ 60 := by
      simp only [ofInstant]
      omega
    rw [toInstant_of_ne hsecond]
    simp only [ofInstant, Date.toDays_ofDays, Instant.mk.injEq]
    omega

theorem second_ofInstant {i : Instant} (h : IsValid i) : (ofInstant i).second ≤ 60 := by
  have hnanos := h.nanos_lt
  have hleap := h.leap
  simp only [ofInstant]
  omega

end Civil

end CertaintyFactor.Time
