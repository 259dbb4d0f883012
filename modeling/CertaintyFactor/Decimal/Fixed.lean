import CertaintyFactor.Decimal.Layout

/-!
# Text with a fixed number of places

The exact value is rounded to the given number of places, a half going to the even neighbour. The
sign of a negative number stays even where all its digits are zero.
-/

set_option autoImplicit false

namespace CertaintyFactor.Decimal

/-- `n / d` rounded to a whole number, a half to the even one. -/
def roundedQuotient (n d : Nat) : Nat :=
  match compare (2 * (n % d)) d with
  | .lt => n / d
  | .gt => n / d + 1
  | .eq => n / d + n / d % 2

/-- The text of a finite magnitude with the given number of places. -/
def fixedMagnitude (places : Nat) (m : Binary64.Magnitude) : List Char :=
  let n := roundedQuotient (m.units * Nat.pow 10 places) Binary64.unitsPerOne
  let row := padded (places + 1) n
  let whole := row.take (row.length - places)
  if places = 0 then whole else whole ++ '.' :: row.drop (row.length - places)

def fixed (places : Nat) : Binary64 → String
  | .nan => Layout.plain.nan
  | .signed negative m =>
    if m.isFinite then
      .ofList ((if negative then ['-'] else []) ++ fixedMagnitude places m)
    else if negative then Layout.plain.negativeInfinity else Layout.plain.infinity

end CertaintyFactor.Decimal
