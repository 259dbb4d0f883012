import CertaintyFactor.Json.Value

/-!
# TOML values

A TOML document as a tree. A date or time keeps its text.
-/

set_option autoImplicit false

namespace CertaintyFactor

inductive Toml where
  | string (text : String)
  | integer (value : Int)
  | float (value : Binary64)
  | bool (value : Bool)
  | dateTime (text : String)
  | array (items : List Toml)
  | table (members : List (String × Toml))

namespace Toml

instance : Inhabited Toml := ⟨table []⟩

mutual

/-- The JSON document of the same form. A date or time is none of the JSON scalars, and becomes an
object. -/
def toJson : Toml → Json
  | string text => .string text
  | integer value => .integer value
  | float value => .float value
  | bool value => .bool value
  | dateTime text => .object [("datetime", .string text)]
  | array items => .array (itemsToJson items)
  | table members => .object (membersToJson members)

def itemsToJson : List Toml → List Json
  | [] => []
  | item :: rest => item.toJson :: itemsToJson rest

def membersToJson : List (String × Toml) → List (String × Json)
  | [] => []
  | (name, value) :: rest => (name, value.toJson) :: membersToJson rest

end

inductive Error where
  | unexpectedEnd
  | unexpected (found : Char)
  | invalidString
  | invalidNumber
  | tooDeep
  /-- A key that is defined twice, or in two ways that do not go together. -/
  | redefined (key : String)
deriving DecidableEq, Repr

def Error.message : Error → String
  | unexpectedEnd => "unexpected end of the document"
  | unexpected c => s!"unexpected character `{c}`"
  | invalidString => "invalid string"
  | invalidNumber => "invalid number or date"
  | tooDeep => "values nest too deep"
  | redefined key => s!"key `{key}` is already defined"

end Toml

end CertaintyFactor
