import CertaintyFactor.Decimal.Basic

/-!
# The shortest decimal that reads back

Of all decimals that read back as a given magnitude, `Magnitude.shortest` has the fewest digits, and
of those it is the nearest. For each number of digits only the two neighbours of the value on that
decimal grid need a test: if any point of the grid reads back, so does one of them.
-/

set_option autoImplicit false

namespace CertaintyFactor

namespace Decimal

/-- Which of two equally near decimals is taken. -/
inductive Tie where
  | toEven
  | up
deriving DecidableEq, Repr

/-- Whether the greater neighbour wins a tie over the smaller one, `below`. -/
def Tie.picksAbove (t : Tie) (below : Nat) : Bool :=
  match t with
  | .toEven => below % 2 = 1
  | .up => true

end Decimal

namespace Binary64.Magnitude

/-- The exponent of ten of the first digit of a positive magnitude. -/
def leadingPlace (m : Magnitude) : Int :=
  if unitsPerOne ≤ m.units then (Decimal.toDigits (m.units / unitsPerOne)).length - 1
  else -(Decimal.toDigits ((unitsPerOne - 1) / m.units)).length

/-- A magnitude as a quotient in units of `10 ^ exponent`. -/
def ratioAt (m : Magnitude) (exponent : Int) : Nat × Nat :=
  match exponent with
  | .ofNat e => (m.units, unitsPerOne * Nat.pow 10 e)
  | .negSucc e => (m.units * Nat.pow 10 (e + 1), unitsPerOne)

/-- Whether a decimal reads back as the magnitude. -/
def ReadsBack (m : Magnitude) (d : Decimal) : Prop :=
  d.toBinary64 false = .signed false m

instance (m : Magnitude) (d : Decimal) : Decidable (m.ReadsBack d) :=
  inferInstanceAs (Decidable (_ = _))

/-- The decimal in units of `10 ^ exponent` that reads back, the nearer one if both neighbours
do. -/
def neighbour? (m : Magnitude) (tie : Decimal.Tie) (exponent : Int) : Option Decimal :=
  let (n, d) := m.ratioAt exponent
  let below : Decimal := ⟨n / d, exponent⟩
  let above : Decimal := ⟨n / d + 1, exponent⟩
  if m.ReadsBack below then
    if m.ReadsBack above then
      match compare (2 * (n % d)) d with
      | .lt => some below
      | .gt => some above
      | .eq => some (if tie.picksAbove below.digits then above else below)
    else some below
  else if m.ReadsBack above then some above
  else none

def exactDecimal (m : Magnitude) : Decimal :=
  ⟨m.units * Nat.pow 5 1074, -1074⟩

/-- The shortest decimal that reads back as a positive finite magnitude, without trailing zeros.
Seventeen digits always suffice; the exact expansion stands behind them. -/
def shortest (m : Magnitude) (tie : Decimal.Tie) : Decimal :=
  let place := m.leadingPlace
  let found := (List.range 17).findSome? fun (n : Nat) => m.neighbour? tie (place - n)
  (found.getD m.exactDecimal).trim

end Binary64.Magnitude

end CertaintyFactor
