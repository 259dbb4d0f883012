import CertaintyFactor.Binary64.Arithmetic

/-!
# Decimal fractions and digits

A `Decimal` is a natural number of some power of ten. The module also holds the two ways digits and
numbers turn into each other, `Decimal.ofDigits` and `Nat.toDigits 10`.
-/

set_option autoImplicit false

namespace CertaintyFactor

/-- The fraction `digits * 10 ^ exponent`. -/
structure Decimal where
  digits : Nat
  exponent : Int
deriving DecidableEq, Repr

namespace Decimal

def digitValue (c : Char) : Nat :=
  c.toNat - '0'.toNat

/-- The natural number a row of ASCII digits writes; an empty row writes zero. -/
def ofDigits (row : List Char) : Nat :=
  row.foldl (fun n c => 10 * n + digitValue c) 0

/-- The decimal digits of a natural number, first digit first. -/
def toDigits (n : Nat) : List Char :=
  Nat.toDigits 10 n

/-- Digits padded with zeros on the left to a least width. -/
def padded (width n : Nat) : List Char :=
  let row := toDigits n
  List.replicate (width - row.length) '0' ++ row

/-- An integer written with a leading minus when negative. -/
def integerText (n : Int) : String :=
  match n with
  | .ofNat m => .ofList (toDigits m)
  | .negSucc m => .ofList ('-' :: toDigits (m + 1))

/-- The same fraction without trailing zero digits. -/
def trim (d : Decimal) : Decimal :=
  if h : d.digits ≠ 0 ∧ d.digits % 10 = 0 then trim ⟨d.digits / 10, d.exponent + 1⟩ else d
termination_by d.digits
decreasing_by exact Nat.div_lt_self (Nat.pos_of_ne_zero h.1) (by decide)

def toBinary64 (d : Decimal) (negative : Bool) : Binary64 :=
  .ofDecimal negative d.digits d.exponent

end Decimal

end CertaintyFactor
