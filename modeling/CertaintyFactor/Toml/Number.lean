import CertaintyFactor.Decimal.Numeral
import CertaintyFactor.Time.Instant
import CertaintyFactor.Toml.Value

/-!
# TOML numbers and dates

The values that begin with a sign or a digit. Each function gives a value with the text that follows
it, or nothing when the text does not begin with such a value.
-/

set_option autoImplicit false

namespace CertaintyFactor.Toml.Number

/-- Digits with single underscores between them, which are dropped. -/
def digitRun (isDigit : Char → Bool) : List Char → List Char × List Char
  | [] => ([], [])
  | c :: rest =>
    if isDigit c then
      let (row, rest) := digitRun isDigit rest
      (c :: row, rest)
    else if c = '_' && rest.head?.any isDigit then digitRun isDigit rest
    else ([], c :: rest)

/-- A run of digits that begins with one. -/
def digits? (isDigit : Char → Bool) (text : List Char) : Option (List Char × List Char) :=
  if text.head?.any isDigit then some (digitRun isDigit text) else none

def sign : List Char → List Char × List Char
  | '+' :: rest => (['+'], rest)
  | '-' :: rest => (['-'], rest)
  | rest => ([], rest)

/-- The digits of a decimal integer, which has no leading zeros. -/
def decimal? : List Char → Option (List Char × List Char)
  | '0' :: rest => some (['0'], rest)
  | text => digits? Char.isDigit text

/-- A number within 64 bits. -/
def inRange (n : Int) (rest : List Char) : Option (Toml × List Char) :=
  if Binary64.minInt64 ≤ n ∧ n ≤ Binary64.maxInt64 then some (.integer n, rest) else none

def digitValue (c : Char) : Nat :=
  if c.isDigit then c.toNat - '0'.toNat else c.toLower.toNat - 'a'.toNat + 10

def isDigitIn (base : Nat) (c : Char) : Bool :=
  (c.isDigit || ('a' ≤ c && c ≤ 'f') || ('A' ≤ c && c ≤ 'F')) && digitValue c < base

/-- An integer in another base than ten. -/
def based? (base : Nat) (text : List Char) : Option (Toml × List Char) := do
  let (row, rest) ← digits? (isDigitIn base) text
  inRange (row.foldl (fun n c => base * n + digitValue c) 0 : Nat) rest

def integer? : List Char → Option (Toml × List Char)
  | '0' :: 'x' :: rest => based? 16 rest
  | '0' :: 'o' :: rest => based? 8 rest
  | '0' :: 'b' :: rest => based? 2 rest
  | text => do
    let (mark, rest) := sign text
    let (row, rest) ← decimal? rest
    let n : Int := Decimal.ofDigits row
    inRange (if mark = ['-'] then -n else n) rest

/-- A fraction, from its point on. -/
def fraction? : List Char → Option (List Char × List Char)
  | '.' :: rest => do
    let (row, rest) ← digits? Char.isDigit rest
    return ('.' :: row, rest)
  | _ => none

/-- An exponent, from its mark on. -/
def exponent? : List Char → Option (List Char × List Char)
  | c :: rest =>
    if c = 'e' || c = 'E' then do
      let (mark, rest) := sign rest
      let (row, rest) ← digits? Char.isDigit rest
      return (c :: mark ++ row, rest)
    else none
  | [] => none

/-- What makes a decimal number a float: a fraction, an exponent, or both. -/
def floatTail? (text : List Char) : Option (List Char × List Char) :=
  match fraction? text with
  | some (part, rest) =>
    match exponent? rest with
    | some (power, rest) => some (part ++ power, rest)
    | none => some (part, rest)
  | none => exponent? text

/-- A word and what follows it. -/
def after? (word text : List Char) : Option (List Char) :=
  if word.isPrefixOf text then some (text.drop word.length) else none

/-- Infinity or a NaN. -/
def special? (text : List Char) : Option (Toml × List Char) :=
  let (mark, rest) := sign text
  match after? "inf".toList rest with
  | some rest => some (.float (.signed (mark = ['-']) .infinity), rest)
  | none => (after? "nan".toList rest).map fun rest => (.float .nan, rest)

/-- A float. One that is written out may not be as large as infinity. -/
def float? (text : List Char) : Option (Toml × List Char) :=
  let (mark, rest) := sign text
  let written : Option (Toml × List Char) := do
    let (row, rest) ← decimal? rest
    let (tail, rest) ← floatTail? rest
    let x ← Decimal.Numeral.read? (mark ++ row ++ tail)
    if x = .infinity then none else return (.float x, rest)
  written <|> special? text

/-- A number of some digits within bounds. -/
def fixedDigits? (width least most : Nat) (text : List Char) : Option (Nat × List Char) :=
  let row := text.take width
  let n := Decimal.ofDigits row
  if row.length = width && row.all Char.isDigit && least ≤ n && n ≤ most then
    some (n, text.drop width)
  else none

def mark? (c : Char) : List Char → Option (List Char)
  | d :: rest => if c = d then some rest else none
  | [] => none

def date? (text : List Char) : Option (List Char × List Char) := do
  let (year, rest) ← fixedDigits? 4 0 9999 text
  let (month, rest) ← fixedDigits? 2 1 12 (← mark? '-' rest)
  let (day, rest) ← fixedDigits? 2 1 31 (← mark? '-' rest)
  if day ≤ Time.daysInMonth year month then return (text.take 10, rest) else none

/-- A fraction of a second, which may be missing: nine places of it at most, without the zeros at
their end. -/
def secondFraction (text : List Char) : List Char × List Char :=
  match text with
  | '.' :: rest =>
    let (row, rest) := rest.span Char.isDigit
    if row.isEmpty then ([], text)
    else
      let kept := ((row.take 9).reverse.dropWhile (· = '0')).reverse
      (if kept.isEmpty then [] else '.' :: kept, rest)
  | _ => ([], text)

def time? (text : List Char) : Option (List Char × List Char) := do
  let (_, rest) ← fixedDigits? 2 0 23 text
  let (_, rest) ← fixedDigits? 2 0 59 (← mark? ':' rest)
  let (_, rest) ← fixedDigits? 2 0 60 (← mark? ':' rest)
  let (fraction, rest) := secondFraction rest
  return (text.take 8 ++ fraction, rest)

/-- An offset from universal time. One of nothing is a positive one. -/
def offset? : List Char → Option (List Char × List Char)
  | 'Z' :: rest | 'z' :: rest => some (['Z'], rest)
  | c :: text =>
    if c = '+' || c = '-' then do
      let (hours, rest) ← fixedDigits? 2 0 23 text
      let (minutes, rest) ← fixedDigits? 2 0 59 (← mark? ':' rest)
      return ((if hours = 0 && minutes = 0 then '+' else c) :: text.take 5, rest)
    else none
  | [] => none

/-- A time that follows a date. -/
def dayTime? : List Char → Option (List Char × List Char)
  | c :: rest =>
    if c = 'T' || c = 't' || c = ' ' then do
      let (row, rest) ← time? rest
      match offset? rest with
      | some (offset, rest) => return ('T' :: row ++ offset, rest)
      | none => return ('T' :: row, rest)
    else none
  | [] => none

/-- A date or time, whose text is the same for every way to write it. -/
def dateTime? (text : List Char) : Option (Toml × List Char) :=
  let found : Option (List Char × List Char) :=
    match date? text with
    | some (day, rest) =>
      match dayTime? rest with
      | some (row, rest) => some (day ++ row, rest)
      | none => some (day, rest)
    | none => time? text
  found.map fun (row, rest) => (.dateTime (.ofList row), rest)

def value? (text : List Char) : Option (Toml × List Char) :=
  dateTime? text <|> float? text <|> integer? text

end CertaintyFactor.Toml.Number
