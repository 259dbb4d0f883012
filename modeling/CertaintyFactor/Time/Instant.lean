import CertaintyFactor.Decimal.Basic

/-!
# Instants

An instant is a count of seconds from the beginning of 1970, with nanoseconds beside it. From a
billion nanoseconds on it lies in a leap second, which shares its count with the second before it.
Dates are of the Gregorian calendar, carried back before its introduction.
-/

set_option autoImplicit false

namespace CertaintyFactor

structure Instant where
  seconds : Int
  nanos : Nat
deriving DecidableEq, Repr

namespace Time

structure Date where
  year : Int
  month : Nat
  day : Nat
deriving DecidableEq, Repr

/-- A date and a time of day, where the second of a leap second is 60. -/
structure Civil where
  date : Date
  hour : Nat
  minute : Nat
  second : Nat
  nanos : Nat
deriving DecidableEq, Repr

def isLeapYear (year : Int) : Bool :=
  year % 4 = 0 && (year % 100 ≠ 0 || year % 400 = 0)

/-- The number of days in a month, none for a number that is no month. -/
def daysInMonth (year : Int) : Nat → Nat
  | 1 | 3 | 5 | 7 | 8 | 10 | 12 => 31
  | 4 | 6 | 9 | 11 => 30
  | 2 => if isLeapYear year then 29 else 28
  | _ => 0

/-- The first and last years of the calendar. -/
abbrev firstYear : Int := -262143

abbrev lastYear : Int := 262142

def Date.exists (d : Date) : Bool :=
  firstYear ≤ d.year && d.year ≤ lastYear && 1 ≤ d.day && d.day ≤ daysInMonth d.year d.month

/-- The number of days before the first of March of a year, from the one of the year zero on. -/
def daysBeforeYear (year : Int) : Int :=
  365 * year + year / 4 - year / 100 + year / 400

/-- The days from March on before each month of a year that begins in March. -/
def daysBeforeMonth (month : Nat) : Nat :=
  (153 * month + 2) / 5

/-- The number of days from the beginning of 1970 to a day. Years are counted from March here, so
that a leap day is the last of its year. -/
def Date.toDays (d : Date) : Int :=
  let year := if d.month ≤ 2 then d.year - 1 else d.year
  let month := (d.month + 9) % 12
  daysBeforeYear year + daysBeforeMonth month + d.day - 1 - 719468

/-- The day a number of days from the beginning of 1970. -/
def Date.ofDays (days : Int) : Date :=
  let shifted := days + 719468
  let era := shifted / 146097
  let dayOfEra := (shifted % 146097).toNat
  let yearOfEra := (dayOfEra - dayOfEra / 1460 + dayOfEra / 36524 - dayOfEra / 146096) / 365
  let dayOfYear := dayOfEra - (365 * yearOfEra + yearOfEra / 4 - yearOfEra / 100)
  let month := (5 * dayOfYear + 2) / 153
  let year := yearOfEra + era * 400
  { year := if month < 10 then year else year + 1
    month := if month < 10 then month + 3 else month - 9
    day := dayOfYear - daysBeforeMonth month + 1 }

/-- The instant of a date and time at an offset, in seconds, from universal time. -/
def Civil.toInstant (c : Civil) (offset : Int) : Instant :=
  let leap := c.second = 60
  let second := if leap then 59 else c.second
  { seconds := c.date.toDays * 86400 + (c.hour * 3600 + c.minute * 60 + second : Nat) - offset
    nanos := if leap then c.nanos + 1000000000 else c.nanos }

/-- The date and time of an instant in universal time. -/
def Civil.ofInstant (i : Instant) : Civil :=
  let second := (i.seconds % 86400).toNat
  { date := .ofDays (i.seconds / 86400)
    hour := second / 3600
    minute := second / 60 % 60
    second := second % 60 + i.nanos / 1000000000
    nanos := i.nanos % 1000000000 }

end Time

end CertaintyFactor
