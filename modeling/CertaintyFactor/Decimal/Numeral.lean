import CertaintyFactor.Decimal.Basic

/-!
# Decimal numerals

The written form in which a certainty factor is typed: an optional sign, then `inf`, `infinity` or
`nan` in any case, or digits with an optional point among them and an optional exponent. At least
one digit stands before the exponent and at least one in it. The number read is the nearest one.
-/

set_option autoImplicit false

namespace CertaintyFactor.Decimal.Numeral

/-- An optional sign, as "is negative", and what follows it. -/
def sign : List Char → Bool × List Char
  | '-' :: rest => (true, rest)
  | '+' :: rest => (false, rest)
  | rest => (false, rest)

/-- The digits after an optional point, and what follows them. -/
def fraction : List Char → List Char × List Char
  | '.' :: rest => rest.span Char.isDigit
  | rest => ([], rest)

/-- The exponent that ends a numeral: nothing, or a mark, an optional sign and digits. -/
def exponent? : List Char → Option Int
  | [] => some 0
  | mark :: rest =>
    let (negative, digits) := sign rest
    if (mark = 'e' || mark = 'E') && !digits.isEmpty && digits.all Char.isDigit then
      some (if negative then -ofDigits digits else ofDigits digits)
    else none

def decimal? (text : List Char) : Option Decimal :=
  let (whole, rest) := text.span Char.isDigit
  let (part, rest) := fraction rest
  if whole.isEmpty && part.isEmpty then none
  else (exponent? rest).map fun e => ⟨ofDigits (whole ++ part), e - part.length⟩

/-- The number a numeral writes, none for any other text. -/
def read? (text : List Char) : Option Binary64 :=
  let (negative, rest) := sign text
  match String.ofList (rest.map Char.toLower) with
  | "nan" => some .nan
  | "inf" | "infinity" => some (.signed negative .infinity)
  | _ => (decimal? rest).map (·.toBinary64 negative)

end CertaintyFactor.Decimal.Numeral
