import CertaintyFactor.Json.Number
import CertaintyFactor.Json.Text

/-!
# Reading any document

Reads a value of any form into a tree. Arrays and objects may only nest as deep as the limit given.
-/

set_option autoImplicit false

namespace CertaintyFactor.Json

open Reader

/-- The number of arrays and objects that may be open at once. -/
abbrev nestingLimit : Nat := 127

namespace Tree

/-- A member of an object, put before the members read so far. -/
def member (value : Reader Json) (acc : List (String × Json)) : Reader (List (String × Json)) := do
  let name ← Text.quoted
  colon
  return (name, ← value) :: acc

def scalar : Reader Json := do
  let c ← valueStart
  match c with
  | 'n' => word "null".toList; return .null
  | 't' => word "true".toList; return .bool true
  | 'f' => word "false".toList; return .bool false
  | '"' => return .string (← Text.quoted)
  | _ => if c = '-' || c.isDigit then Number.number else fail .expectedValue

/-- The value that comes next, with at most the given number of brackets open in it. -/
def value : Nat → Reader Json
  | 0 => do
    let c ← valueStart
    if c = '[' || c = '\x7b' then fail .recursionLimit else scalar
  | depth + 1 => do
    match ← valueStart with
    | '[' =>
      skip
      return .array (← items (value depth))
    | '\x7b' =>
      skip
      return .object (← members (member (value depth)) []).reverse
    | _ => scalar

end Tree

def parse (text : String) : Except Error Json :=
  run (Tree.value nestingLimit) text

end CertaintyFactor.Json
