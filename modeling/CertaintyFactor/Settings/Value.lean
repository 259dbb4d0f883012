import CertaintyFactor.Text.LowerCase
import CertaintyFactor.Text.Quoted
import CertaintyFactor.Toml.Value

/-!
# Values of settings

What a settings file or the environment says, as a tree. Each value remembers where it was set, so
that a message about it can say so. Names count in lower case.
-/

set_option autoImplicit false

namespace CertaintyFactor.Settings

/-- Where a value was set, in words. What is set nowhere has none. -/
abbrev Origin := Option String

inductive Scalar where
  | unset
  | flag (value : Bool)
  | integer (value : Int)
  | float (value : Binary64)
  | text (value : String)
deriving DecidableEq

/-- A value of a setting, or a table of settings. -/
inductive Value where
  | scalar (origin : Origin) (content : Scalar)
  | list (origin : Origin) (items : List Value)
  | table (origin : Origin) (members : List (String × Value))

/-- A scalar in words, as a message says what was found: with the given word for integers, and
numbers in the given layout. -/
def Scalar.words (integerWord : String) (layout : Decimal.Layout) : Scalar → String
  | unset => "unit value"
  | flag true => "boolean `true`"
  | flag false => "boolean `false`"
  | integer n => s!"{integerWord} `{Decimal.integerText n}`"
  | float x => s!"floating point `{layout.text x}`"
  | text s => s!"string {Text.quoted s}"

/-- A whole number, within 64 bits if it is to be one. -/
def Scalar.ofInteger (n : Int) : Scalar :=
  if Binary64.minInt64 ≤ n ∧ n ≤ Binary64.maxInt64 then integer n else float (.ofInt n)

namespace Value

def unset : Value :=
  scalar none .unset

instance : Inhabited Value := ⟨unset⟩

def origin : Value → Origin
  | scalar o _ => o
  | list o _ => o
  | table o _ => o

/-- The members with the value of one changed or added at the end. -/
def put (name : String) (value : Value) : List (String × Value) → List (String × Value)
  | [] => [(name, value)]
  | (other, old) :: rest =>
    if other = name then (name, value) :: rest else (other, old) :: put name value rest

/-- Members by their names in lower case. Of names that differ in case only the one latest in order
counts, and of equal names the last. -/
def byLowerName (members : List (String × Value)) : List (String × Value) :=
  (members.mergeSort fun a b => a.1 ≤ b.1).foldl
    (fun all (name, value) => put (Text.lower name) value all) []

section

variable (origin : Origin)

mutual

def ofJson : Json → Value
  | .null => scalar origin .unset
  | .bool b => scalar origin (.flag b)
  | .integer n => scalar origin (.ofInteger n)
  | .float x => scalar origin (.float x)
  | .string s => scalar origin (.text s)
  | .array items => list origin (itemsOfJson items)
  | .object members => table origin (byLowerName (membersOfJson members))

def itemsOfJson : List Json → List Value
  | [] => []
  | item :: rest => ofJson item :: itemsOfJson rest

def membersOfJson : List (String × Json) → List (String × Value)
  | [] => []
  | (name, value) :: rest => (name, ofJson value) :: membersOfJson rest

end

mutual

/-- The settings that a TOML document holds. A date or time is a text. -/
def ofToml : Toml → Value
  | .string s => scalar origin (.text s)
  | .integer n => scalar origin (.integer n)
  | .float x => scalar origin (.float x)
  | .bool b => scalar origin (.flag b)
  | .dateTime s => scalar origin (.text s)
  | .array items => list origin (itemsOfToml items)
  | .table members => table origin (byLowerName (membersOfToml members))

def itemsOfToml : List Toml → List Value
  | [] => []
  | item :: rest => ofToml item :: itemsOfToml rest

def membersOfToml : List (String × Toml) → List (String × Value)
  | [] => []
  | (name, value) :: rest => (name, ofToml value) :: membersOfToml rest

end

end

end Value

end CertaintyFactor.Settings
