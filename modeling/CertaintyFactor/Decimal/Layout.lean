import CertaintyFactor.Decimal.Shortest

/-!
# Layouts of decimal text

A `Layout` says how the shortest digits of a number are set out. Two are in use: `Layout.json` for
documents, with an exponent outside a middle range, and `Layout.plain` for messages, which never has
one.
-/

set_option autoImplicit false

namespace CertaintyFactor.Decimal

/-- How a number is written. -/
structure Layout where
  /-- The decimal taken of two equally near ones. -/
  tie : Tie
  /-- Whether a number whose first digit has this exponent of ten is written without exponent. -/
  positional : Int → Bool
  /-- What follows a whole number. -/
  whole : String
  nan : String
  infinity : String
  negativeInfinity : String

namespace Layout

/-- Numbers of documents: positional from `1e-5` up to below `1e16`, a whole number ends in `.0`,
and what is no number is `null`. -/
def json : Layout where
  tie := .toEven
  positional place := -5 ≤ place && place ≤ 15
  whole := ".0"
  nan := "null"
  infinity := "null"
  negativeInfinity := "null"

/-- Numbers of messages: always positional, a whole number has no point. -/
def plain : Layout where
  tie := .up
  positional _ := true
  whole := ""
  nan := "NaN"
  infinity := "inf"
  negativeInfinity := "-inf"

/-- Digits set out around the point. -/
def positionalText (l : Layout) (d : Decimal) : List Char :=
  let row := toDigits d.digits
  match d.exponent with
  | .ofNat e => row ++ List.replicate e '0' ++ l.whole.toList
  | .negSucc e =>
    let row := List.replicate (e + 2 - row.length) '0' ++ row
    row.take (row.length - (e + 1)) ++ '.' :: row.drop (row.length - (e + 1))

/-- One digit before the point, and an exponent with a sign. -/
def exponentText (d : Decimal) (place : Int) : List Char :=
  let row := toDigits d.digits
  let rest := row.drop 1
  row.take 1 ++ (if rest.isEmpty then [] else '.' :: rest) ++
    'e' :: (if place < 0 then '-' else '+') :: toDigits place.natAbs

def magnitudeText (l : Layout) (m : Binary64.Magnitude) : List Char :=
  if m.rank = 0 then '0' :: l.whole.toList
  else
    let d := m.shortest l.tie
    let place : Int := (toDigits d.digits).length - 1 + d.exponent
    if l.positional place then l.positionalText d else exponentText d place

def text (l : Layout) : Binary64 → String
  | .nan => l.nan
  | .signed negative m =>
    if m.isFinite then
      .ofList ((if negative then ['-'] else []) ++ l.magnitudeText m)
    else if negative then l.negativeInfinity else l.infinity

end Layout

end CertaintyFactor.Decimal
