import CertaintyFactor.Json.Number
import CertaintyFactor.Json.Text

/-!
# Passing over values

A value nobody asked for is passed over without being built. The brackets that are open are kept in
a list, so nesting has no limit here. Only the form is checked: strings may hold any escape of the
right length and numbers may be of any size.
-/

set_option autoImplicit false

namespace CertaintyFactor.Json.Skip

open Reader

inductive Bracket where
  | list
  | object
deriving DecidableEq

namespace Bracket

def closing : Bracket → Char
  | list => ']'
  | object => '\x7d'

/-- The error of a text that ends inside the bracket. -/
def atEnd : Bracket → Error
  | list => .endOfList
  | object => .endOfObject

/-- The error of a part that neither ends the bracket nor goes on after a comma. -/
def atOther : Bracket → Error
  | list => .expectedListCommaOrEnd
  | object => .expectedObjectCommaOrEnd

end Bracket

def name : Reader Unit := do
  match ← token? with
  | some '"' =>
    Text.skipped
    match ← token? with
    | some ':' => skip
    | some _ => fail .expectedColon
    | none => fail .endOfObject
  | some _ => fail .keyNotString
  | none => fail .endOfObject

/-- What stands before the value of a part of a bracket. -/
def lead : Bracket → Reader Unit
  | .list => pure ()
  | .object => name

/-- A value without parts, or the bracket that opens one with parts. -/
def opening : Reader (Option Bracket) := do
  let c ← valueStart
  match c with
  | 'n' => word "null".toList; return none
  | 't' => word "true".toList; return none
  | 'f' => word "false".toList; return none
  | '"' => Text.skipped; return none
  | '[' => skip; return some .list
  | '\x7b' => skip; return some .object
  | _ =>
    if c = '-' || c.isDigit then
      Number.skipped
      return none
    else fail .expectedValue

/-- Closes brackets after a value, as many as are closed in a row; what is left are the brackets
whose next part follows. -/
def close : List Bracket → Reader (List Bracket)
  | [] => return []
  | b :: rest => do
    match ← token? with
    | none => fail b.atEnd
    | some c =>
      if c = ',' then
        skip
        return b :: rest
      else if c = b.closing then
        skip
        close rest
      else fail b.atOther

/-- Whether the bracket just opened is closed at once, which is then done. -/
def closesAtOnce (b : Bracket) : Reader Bool := do
  match ← token? with
  | none => fail b.atEnd
  | some c =>
    if c = b.closing then
      skip
      return true
    else return false

/-- Passes over values until all brackets are closed. The text itself is the fuel: each round drops
one character of it and reads one at least. -/
def values : List Char → List Bracket → Reader Unit
  | [], _ => fail .endOfValue
  | _ :: fuel, brackets => do
    let brackets ←
      match ← opening with
      | none => close brackets
      | some b =>
        if ← closesAtOnce b then close brackets else pure (b :: brackets)
    match brackets with
    | [] => pure ()
    | b :: _ =>
      lead b
      values fuel brackets

def value : Reader Unit := do
  values (← get) []

end CertaintyFactor.Json.Skip
