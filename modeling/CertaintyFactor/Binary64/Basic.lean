/-!
# Binary64 numbers

A binary64 number is a NaN or a signed magnitude. Magnitudes are held by their *rank*: their place
in the increasing list of all magnitudes, from zero at rank `0` to infinity at `topRank`. Two
neighbours in rank are neighbours in value, so order, successor and parity of the last bit are read
off the rank, and `Magnitude.units` gives the value of a finite magnitude as a natural number of
units of `2 ^ -1074`, the smallest positive magnitude.

Only one NaN is kept: nothing in this library tells two apart.
-/

set_option autoImplicit false

namespace CertaintyFactor

namespace Binary64

/-- The number of magnitudes that share one binary exponent, `2 ^ 52`. -/
abbrev fractions : Nat := 0x10000000000000

/-- The rank of infinity. -/
abbrev topRank : Nat := 2047 * fractions

/-- One in units of `2 ^ -1074`. -/
abbrev unitsPerOne : Nat := Nat.pow 2 1074

/-- A magnitude: finite below `topRank`, infinite at it. -/
structure Magnitude where
  rank : Nat
  rank_le : rank ≤ topRank := by decide
deriving DecidableEq

namespace Magnitude

/-- The magnitude of a given rank, infinity for every rank past the top. -/
def ofRank (rank : Nat) : Magnitude :=
  ⟨min rank topRank, Nat.min_le_right _ _⟩

def zero : Magnitude := ⟨0, Nat.zero_le _⟩

def infinity : Magnitude := ⟨topRank, Nat.le_refl _⟩

def isFinite (m : Magnitude) : Bool :=
  m.rank < topRank

/-- The value of a finite magnitude in units of `2 ^ -1074`. Below `fractions` the ranks are the
subnormal magnitudes, one unit apart; each further run of `fractions` ranks doubles the distance. -/
def units (m : Magnitude) : Nat :=
  if m.rank < fractions then m.rank
  else (fractions + m.rank % fractions) * Nat.pow 2 (m.rank / fractions - 1)

end Magnitude

end Binary64

open Binary64 in
inductive Binary64 where
  | nan
  | signed (negative : Bool) (magnitude : Magnitude)
deriving DecidableEq

namespace Binary64

instance : Inhabited Binary64 := ⟨.signed false .zero⟩

def zero : Binary64 := .signed false .zero

def infinity : Binary64 := .signed false .infinity

def negativeInfinity : Binary64 := .signed true .infinity

def isNaN : Binary64 → Bool
  | .nan => true
  | .signed .. => false

def isFinite : Binary64 → Bool
  | .nan => false
  | .signed _ m => m.isFinite

def isInfinite : Binary64 → Bool
  | .nan => false
  | .signed _ m => !m.isFinite

def isZero : Binary64 → Bool
  | .nan => false
  | .signed _ m => m.rank = 0

/-- The opposite sign; a NaN has none. -/
def neg : Binary64 → Binary64
  | .nan => .nan
  | .signed s m => .signed (!s) m

instance : Neg Binary64 := ⟨neg⟩

def abs : Binary64 → Binary64
  | .nan => .nan
  | .signed _ m => .signed false m

/-- The place of a number on the number line, where both zeros share one place and a NaN has
none. -/
def place? : Binary64 → Option Int
  | .nan => none
  | .signed false m => some m.rank
  | .signed true m => some (-m.rank)

/-- Numeric `≤`, which no NaN satisfies. -/
def le (a b : Binary64) : Bool :=
  match a.place?, b.place? with
  | some x, some y => x ≤ y
  | _, _ => false

/-- Numeric `<`, which no NaN satisfies. -/
def lt (a b : Binary64) : Bool :=
  match a.place?, b.place? with
  | some x, some y => x < y
  | _, _ => false

/-- Numeric equality: the zeros are equal and a NaN equals nothing. -/
def eqv (a b : Binary64) : Bool :=
  match a.place?, b.place? with
  | some x, some y => x = y
  | _, _ => false

/-- The place of a number in the total order that puts negative zero just below positive zero. A
NaN takes the place of negative infinity. -/
def orderKey : Binary64 → Int
  | .nan => -topRank - 1
  | .signed false m => m.rank
  | .signed true m => -m.rank - 1

end Binary64

end CertaintyFactor
