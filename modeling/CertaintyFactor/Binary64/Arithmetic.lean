import CertaintyFactor.Binary64.Rounding

/-!
# Binary64 arithmetic

Sums, products and quotients are computed exactly on units of `2 ^ -1074` and rounded once, to
nearest with ties to even. `percent` is the value in hundredths as a signed 64-bit integer.
-/

set_option autoImplicit false

namespace CertaintyFactor.Binary64

/-- A finite number as an integer number of units of `2 ^ -1074`. -/
def toUnits (negative : Bool) (m : Magnitude) : Int :=
  if negative then -m.units else m.units

/-- The number nearest to an integer number of units, where `zeroSign` is the sign of a zero. -/
def ofUnits (zeroSign : Bool) (u : Int) : Binary64 :=
  if u = 0 then .signed zeroSign .zero else .signed (u < 0) (.nearest u.natAbs 1)

/-- The sum. A zero sum is negative only when both terms are. -/
def add : Binary64 → Binary64 → Binary64
  | .nan, _ => .nan
  | _, .nan => .nan
  | .signed s m, .signed t n =>
    if m.isFinite && n.isFinite then ofUnits (s && t) (toUnits s m + toUnits t n)
    else if m.isFinite then .signed t n
    else if n.isFinite || s = t then .signed s m
    else .nan

def sub (a b : Binary64) : Binary64 :=
  add a b.neg

/-- The product; zero times infinity is a NaN. -/
def mul : Binary64 → Binary64 → Binary64
  | .nan, _ => .nan
  | _, .nan => .nan
  | .signed s m, .signed t n =>
    if m.isFinite && n.isFinite then .signed (s != t) (.nearest (m.units * n.units) unitsPerOne)
    else if m.rank = 0 || n.rank = 0 then .nan
    else .signed (s != t) .infinity

/-- The quotient; `0 / 0` and infinity over infinity are NaN. -/
def div : Binary64 → Binary64 → Binary64
  | .nan, _ => .nan
  | _, .nan => .nan
  | .signed s m, .signed t n =>
    if m.isFinite && n.isFinite then
      if n.rank = 0 then (if m.rank = 0 then .nan else .signed (s != t) .infinity)
      else .signed (s != t) (.nearest (m.units * unitsPerOne) n.units)
    else if m.isFinite then .signed (s != t) .zero
    else if n.isFinite then .signed (s != t) .infinity
    else .nan

instance : Add Binary64 := ⟨add⟩

instance : Sub Binary64 := ⟨sub⟩

instance : Mul Binary64 := ⟨mul⟩

instance : Div Binary64 := ⟨div⟩

abbrev maxInt64 : Int := 0x7fffffffffffffff

abbrev minInt64 : Int := -0x8000000000000000

/-- The nearest integer, a half going away from zero, held within 64 bits. A NaN gives zero. -/
def round : Binary64 → Int
  | .nan => 0
  | .signed s m =>
    if m.isFinite then
      let whole : Int := (m.units + unitsPerOne / 2) / unitsPerOne
      max minInt64 (min maxInt64 (if s then -whole else whole))
    else if s then minInt64 else maxInt64

def percent (x : Binary64) : Int :=
  (x * 100).round

end CertaintyFactor.Binary64
