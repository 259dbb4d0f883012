import CertaintyFactor.Json.Reader

/-!
# Reading numbers

A number without point and exponent is an integer while it fits 64 bits. Any other number is a
binary64 one, and is worked out quickly rather than exactly: as many leading digits as fit 64 bits
are taken as a whole number, that number is rounded, and it is multiplied or divided by a rounded
power of ten, with one more rounding. A result past the largest number is an error.
-/

set_option autoImplicit false

namespace CertaintyFactor.Json.Number

open Reader

/-- The largest significand, an unsigned number of 64 bits. -/
abbrev maxSignificand : Nat := 0xffffffffffffffff

abbrev maxExponent : Nat := 0x7fffffff

/-- The largest power of ten that is looked up in one piece. -/
abbrev maxPower : Nat := 308

/-- Powers of ten, each the nearest number. -/
def power (e : Nat) : Binary64 :=
  .ofDecimal false 1 e

/-- A number divided by a power of ten, in steps of `10 ^ 308` while the power is larger and the
number not yet zero. -/
def shrink (x : Binary64) (e : Nat) : Binary64 :=
  if _h : maxPower < e then
    if x.isZero then x else shrink (x / power maxPower) (e - maxPower)
  else x / power e
termination_by e
decreasing_by simp only [maxPower] at *; omega

/-- The number with a significand and a power of ten. -/
def ofParts (negative : Bool) (significand : Nat) (exponent : Int) : Reader Binary64 :=
  let x := Binary64.ofNat significand
  let signed (x : Binary64) : Binary64 := if negative then -x else x
  match exponent with
  | .negSucc e => return signed (shrink x (e + 1))
  | .ofNat e =>
    if maxPower < e then
      if x.isZero then return signed x else fail .numberOutOfRange
    else
      let y := x * power e
      if y.isInfinite then fail .numberOutOfRange else return signed y

/-- Adds digits to a significand while it stays within 64 bits. What remains are the other digits
and the text after all of them. -/
def significand (start : Nat) (text : List Char) : Nat × List Char × List Char :=
  let (digits, rest) := text.span Char.isDigit
  let (value, left) := take start digits
  (value, left, rest)
where
  /-- The significand with its digits added, and the digits left. -/
  take (value : Nat) : List Char → Nat × List Char
    | [] => (value, [])
    | c :: rest =>
      let next := 10 * value + Decimal.digitValue c
      if maxSignificand < next then (value, c :: rest) else take next rest

def exponentSign : List Char → Bool × List Char
  | '+' :: rest => (false, rest)
  | '-' :: rest => (true, rest)
  | rest => (false, rest)

/-- The number whose exponent comes next, after its mark. -/
def withExponent (negative : Bool) (value : Nat) (start : Int) : Reader Binary64 := do
  skip
  let (down, text) := exponentSign (← get)
  set text
  match ← first? with
  | none => fail .endOfValue
  | some c =>
    if !c.isDigit then fail .invalidNumber
    else
      let (digits, rest) := text.span Char.isDigit
      set rest
      let exponent := Decimal.ofDigits digits
      if maxExponent < exponent then
        if value ≠ 0 && !down then fail .numberOutOfRange
        else return .signed negative .zero
      else ofParts negative value (if down then start - exponent else start + exponent)

/-- The number with what follows its digits: an exponent or nothing. -/
def afterFraction (negative : Bool) (value : Nat) (exponent : Int) : Reader Binary64 := do
  match ← first? with
  | some 'e' | some 'E' => withExponent negative value exponent
  | _ => ofParts negative value exponent

/-- The number whose fraction comes next. -/
def withFraction (negative : Bool) (value : Nat) (start : Int) : Reader Binary64 := do
  skip
  match ← first? with
  | none => fail .endOfValue
  | some c =>
    if !c.isDigit then fail .invalidNumber
    else
      let text ← get
      let (longer, left, rest) := significand value text
      set rest
      let read := (text.takeWhile Char.isDigit).length - left.length
      afterFraction negative longer (start - read)

/-- The number whose first digit comes next, with its sign already read. -/
def unsigned (negative : Bool) : Reader Json := do
  let text ← get
  let (value, left, rest) := significand 0 text
  match text with
  | [] => fail .endOfValue
  | c :: others =>
    if !c.isDigit || (c = '0' && others.head?.any Char.isDigit) then fail .invalidNumber
    else
      set rest
      match ← first? with
      | some '.' => return .float (← withFraction negative value left.length)
      | some 'e' | some 'E' => return .float (← withExponent negative value left.length)
      | _ =>
        if !left.isEmpty then return .float (← ofParts negative value left.length)
        else if !negative then return .integer value
        else if value = 0 || 0x8000000000000000 < value then return .float (-Binary64.ofNat value)
        else return .integer (-value)

/-- The number that comes next, from its sign on. -/
def number : Reader Json := do
  match ← first? with
  | some '-' =>
    skip
    unsigned true
  | _ => unsigned false

def skipExponent : Reader Unit := do
  skip
  let (_, text) := exponentSign (← get)
  let (digits, rest) := text.span Char.isDigit
  set rest
  if digits.isEmpty then fail .invalidNumber else pure ()

/-- Passes over what follows the digits before or after a point. -/
def skipAfterFraction : Reader Unit := do
  match ← first? with
  | some 'e' | some 'E' => skipExponent
  | _ => pure ()

/-- Passes over the number that comes next, checking only how it is written. -/
def skipped : Reader Unit := do
  if (← first?) = some '-' then skip
  let (digits, rest) := (← get).span Char.isDigit
  set rest
  if digits.isEmpty || (digits.head? = some '0' && 1 < digits.length) then fail .invalidNumber
  else
    match ← first? with
    | some '.' =>
      skip
      let (digits, rest) := (← get).span Char.isDigit
      set rest
      if digits.isEmpty then fail .invalidNumber else skipAfterFraction
    | _ => skipAfterFraction

end CertaintyFactor.Json.Number
