import CertaintyFactor.Text.Blank
import CertaintyFactor.Time.Instant

/-!
# Date and time texts

Instants are written in universal time as `2024-05-01T10:20:30Z`, with three, six or nine digits of
the second's fraction as far as they are needed. Reading is more lenient: blanks may stand between
the parts, months, days, hours, minutes and seconds may have one digit, a year may have a sign, and
the offset from universal time may be `Z`, `UTC` or hours and minutes.
-/

set_option autoImplicit false

namespace CertaintyFactor.Time

inductive Error where
  | tooShort
  | invalid
  | tooLong
  | outOfRange
  | impossible
deriving DecidableEq, Repr

def Error.message : Error → String
  | tooShort => "premature end of input"
  | invalid => "input contains invalid characters"
  | tooLong => "trailing input"
  | outOfRange => "input is out of range"
  | impossible => "no possible date and time matching input"

namespace Rfc3339

/-- Takes characters off the front of a text. -/
abbrev Reader := StateT (List Char) (Except Error)

def blanks : Reader Unit :=
  modify Text.trimStart

/-- A row of digits, at least one of them, and at most so many as are given. -/
def digits (most : Option Nat) : Reader (List Char) := do
  let text ← get
  match text with
  | [] => throw .tooShort
  | c :: _ =>
    if !c.isDigit then throw .invalid
    else
      let row := text.takeWhile Char.isDigit
      let row := match most with
        | some n => row.take n
        | none => row
      set (text.drop row.length)
      return row

/-- A number of at most two digits within bounds, after blanks. -/
def number (least most : Nat) : Reader Nat := do
  blanks
  let n := Decimal.ofDigits (← digits (some 2))
  if least ≤ n ∧ n ≤ most then return n else throw .outOfRange

/-- A mark after blanks. -/
def mark (c : Char) : Reader Unit := do
  blanks
  match ← get with
  | [] => throw .tooShort
  | d :: rest => if c = d then set rest else throw .invalid

/-- The largest number of a year with a sign. -/
abbrev maxYear : Nat := 0x7fffffff

/-- A year: four digits at most, or any number of them after a sign. -/
def year : Reader Int := do
  blanks
  match ← get with
  | '-' :: rest =>
    set rest
    let n := Decimal.ofDigits (← digits none)
    if maxYear + 1 < n then throw .outOfRange else return -n
  | '+' :: rest =>
    set rest
    let n := Decimal.ofDigits (← digits none)
    if maxYear < n then throw .outOfRange else return n
  | _ => return Decimal.ofDigits (← digits (some 4))

/-- The letter or blank between date and time. -/
def separator : Reader Unit := do
  match ← get with
  | [] => throw .tooShort
  | c :: rest => if c = 't' || c = 'T' || c = ' ' then set rest else throw .invalid

/-- The fraction of a second in nanoseconds. Digits after the ninth are passed over. -/
def fraction : Reader Nat := do
  match ← get with
  | '.' :: rest =>
    set rest
    let row ← digits (some 9)
    modify (·.dropWhile Char.isDigit)
    return Decimal.ofDigits row * Nat.pow 10 (9 - row.length)
  | _ => return 0

/-- Two digits of an offset. A text is too short for them by its bytes. -/
def offsetDigits : Reader (Nat × Nat) := do
  let text ← get
  match text with
  | a :: b :: rest =>
    if a.isDigit && b.isDigit then
      set rest
      return (Decimal.digitValue a, Decimal.digitValue b)
    else throw .invalid
  | [a] => if 2 ≤ a.utf8Size then throw .invalid else throw .tooShort
  | [] => throw .tooShort

/-- The sign of an offset, as "is negative". -/
def offsetSign : Reader Bool := do
  match ← get with
  | [] => throw .tooShort
  | c :: rest =>
    set rest
    if c = '+' then return false
    else if c = '-' || c.toNat = 0x2212 then return true
    else throw .invalid

/-- An offset from universal time in seconds. -/
def offset : Reader Int := do
  blanks
  let text ← get
  if (text.take 3).map Char.toUpper = "UTC".toList then
    set (text.drop 3)
    return 0
  else
    match text with
    | 'Z' :: rest | 'z' :: rest =>
      set rest
      return 0
    | _ =>
      let negative ← offsetSign
      let (h, hh) ← offsetDigits
      modify (·.dropWhile fun c => c = ':' || Text.isBlank c)
      let (m, mm) ← offsetDigits
      if 6 ≤ m then throw .outOfRange
      let seconds : Int := (((10 * h + hh) * 60 + 10 * m + mm) * 60 : Nat)
      return if negative then -seconds else seconds

/-- The date and time, and the offset from universal time. -/
def civil : Reader (Civil × Int) := do
  let year ← year
  mark '-'
  let month ← number 1 12
  mark '-'
  let day ← number 1 31
  separator
  let hour ← number 0 23
  mark ':'
  let minute ← number 0 59
  mark ':'
  let second ← number 0 60
  let nanos ← fraction
  let offset ← offset
  return (⟨⟨year, month, day⟩, hour, minute, second, nanos⟩, offset)

/-- Whether an instant lies within the years of the calendar. -/
def inCalendar (i : Instant) : Bool :=
  let year := (Civil.ofInstant i).date.year
  firstYear ≤ year && year ≤ lastYear

def parse (text : String) : Except Error Instant := do
  let ((civil, offset), rest) ← StateT.run civil text.toList
  if !(Text.trimStart rest).isEmpty then throw .tooLong
  if !civil.date.exists then throw .outOfRange
  if 86400 ≤ offset.natAbs then throw .outOfRange
  let instant := civil.toInstant offset
  if inCalendar instant then return instant else throw .impossible

/-- A year: four digits, or a sign and at least four digits when it has more or lies before the
year zero. -/
def yearText (year : Int) : List Char :=
  if 0 ≤ year && year ≤ 9999 then Decimal.padded 4 year.toNat
  else (if year < 0 then '-' else '+') :: Decimal.padded 4 year.natAbs

def dateText (d : Date) : List Char :=
  yearText d.year ++ '-' :: Decimal.padded 2 d.month ++ '-' :: Decimal.padded 2 d.day

def timeText (c : Civil) : List Char :=
  Decimal.padded 2 c.hour ++ ':' :: Decimal.padded 2 c.minute ++ ':' :: Decimal.padded 2 c.second

def fractionText (nanos : Nat) : List Char :=
  if nanos = 0 then []
  else if nanos % 1000000 = 0 then '.' :: Decimal.padded 3 (nanos / 1000000)
  else if nanos % 1000 = 0 then '.' :: Decimal.padded 6 (nanos / 1000)
  else '.' :: Decimal.padded 9 nanos

/-- The text of an instant in documents. -/
def text (i : Instant) : String :=
  let c := Civil.ofInstant i
  .ofList (dateText c.date ++ 'T' :: timeText c ++ fractionText c.nanos ++ ['Z'])

/-- The text of an instant in tables. -/
def tableText (i : Instant) : String :=
  let c := Civil.ofInstant i
  .ofList (dateText c.date ++ ' ' :: timeText c)

/-- The text in its written form, or why it is no date and time. -/
def normalize (text : String) : Except String String :=
  match parse text with
  | .ok instant => .ok (Rfc3339.text instant)
  | .error e => .error e.message

end Rfc3339

end CertaintyFactor.Time
