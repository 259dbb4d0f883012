import CertaintyFactor.Binary64.Basic

/-!
# Rounding to binary64

`Magnitude.nearest n d` is the magnitude nearest to `n / d` units of `2 ^ -1074`, ties going to the
even rank. Every operation of the library computes an exact quotient and rounds once through it.
-/

set_option autoImplicit false

namespace CertaintyFactor.Binary64

namespace Magnitude

/-- The binary exponent, counted from the smallest one, of a quotient of units: zero while the
quotient is below `2 ^ 53`, and such that the rest has 53 bits above that. -/
def scale (n d : Nat) : Nat :=
  Nat.log2 (n / d) - 52

/-- The rank just at or below `n / d` units, when that is finite. -/
def rankBelow (n d : Nat) : Nat :=
  scale n d * fractions + n / (d * Nat.pow 2 (scale n d))

/-- The rank nearest to `n / d` units; a tie goes to the even one. -/
def nearestRank (n d : Nat) : Nat :=
  let unit := d * Nat.pow 2 (scale n d)
  let below := rankBelow n d
  match compare (2 * (n % unit)) unit with
  | .lt => below
  | .gt => below + 1
  | .eq => below + below % 2

/-- The magnitude nearest to `n / d` units of `2 ^ -1074`. -/
def nearest (n d : Nat) : Magnitude :=
  ofRank (nearestRank n d)

end Magnitude

/-- The number nearest to `n / d`, with the given sign. -/
def ofRatio (negative : Bool) (n d : Nat) : Binary64 :=
  .signed negative (.nearest (n * unitsPerOne) d)

def ofNat (n : Nat) : Binary64 :=
  ofRatio false n 1

def ofInt (n : Int) : Binary64 :=
  ofRatio (n < 0) n.natAbs 1

/-- Past this many places before the point a decimal is infinite as a binary64 number. -/
abbrev decimalCeiling : Int := 310

/-- With its first digit this many places after the point a decimal rounds to zero. -/
abbrev decimalFloor : Int := -330

/-- The number nearest to `digits * 10 ^ exponent`. Decimals far outside the range are settled by
the place of their first digit, so no huge power is computed for them. -/
def ofDecimal (negative : Bool) (digits : Nat) (exponent : Int) : Binary64 :=
  let places : Int := (Nat.toDigits 10 digits).length + exponent
  if digits = 0 then .signed negative .zero
  else if decimalCeiling < places then .signed negative .infinity
  else if places < decimalFloor then .signed negative .zero
  else match exponent with
    | .ofNat e => ofRatio negative (digits * Nat.pow 10 e) 1
    | .negSucc e => ofRatio negative digits (Nat.pow 10 (e + 1))

instance instOfNat (n : Nat) : OfNat Binary64 n := ⟨ofNat n⟩

instance instOfScientific : OfScientific Binary64 where
  ofScientific digits negativeExponent exponent :=
    ofDecimal false digits (if negativeExponent then -exponent else exponent)

end CertaintyFactor.Binary64
