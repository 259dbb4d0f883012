import CertaintyFactor.Json.Value
import CertaintyFactor.Text.Quoted

/-!
# Reading errors

Why a text is no document, or no document of the form that was asked for.
-/

set_option autoImplicit false

namespace CertaintyFactor.Json

inductive Error where
  | endOfList
  | endOfObject
  | endOfString
  | endOfValue
  | expectedColon
  | expectedListCommaOrEnd
  | expectedObjectCommaOrEnd
  | expectedWord
  | expectedValue
  | invalidEscape
  | invalidNumber
  | numberOutOfRange
  | controlCharacter
  | keyNotString
  | loneSurrogate
  | endOfEscape
  | trailingComma
  | trailingCharacters
  | recursionLimit
  | missingField (name : String)
  | duplicateField (name : String)
  | unknownVariant (name : String) (known : List String)
  /-- A value of another type than expected; both are given in words. -/
  | invalidType (found expected : String)
  /-- A value outside the expected range; both are given in words. -/
  | invalidValue (found expected : String)
  /-- A list of another length than expected, which is given in words. -/
  | invalidLength (found : Nat) (expected : String)
  /-- A string that is not of the expected format; the format says why. -/
  | invalidFormat (reason : String)
deriving DecidableEq, Repr

/-- A choice of names in words. -/
def oneOf : List String → String
  | [a] => s!"`{a}`"
  | [a, b] => s!"`{a}` or `{b}`"
  | names => "one of " ++ ", ".intercalate (names.map fun n => s!"`{n}`")

def Error.message : Error → String
  | endOfList => "EOF while parsing a list"
  | endOfObject => "EOF while parsing an object"
  | endOfString => "EOF while parsing a string"
  | endOfValue => "EOF while parsing a value"
  | expectedColon => "expected `:`"
  | expectedListCommaOrEnd => "expected `,` or `]`"
  | expectedObjectCommaOrEnd => "expected `,` or `\x7d`"
  | expectedWord => "expected ident"
  | expectedValue => "expected value"
  | invalidEscape => "invalid escape"
  | invalidNumber => "invalid number"
  | numberOutOfRange => "number out of range"
  | controlCharacter => "control character (\\u0000-\\u001F) found while parsing a string"
  | keyNotString => "key must be a string"
  | loneSurrogate => "lone leading surrogate in hex escape"
  | endOfEscape => "unexpected end of hex escape"
  | trailingComma => "trailing comma"
  | trailingCharacters => "trailing characters"
  | recursionLimit => "recursion limit exceeded"
  | missingField name => s!"missing field `{name}`"
  | duplicateField name => s!"duplicate field `{name}`"
  | unknownVariant name known => s!"unknown variant `{name}`, expected {oneOf known}"
  | invalidType found expected => s!"invalid type: {found}, expected {expected}"
  | invalidValue found expected => s!"invalid value: {found}, expected {expected}"
  | invalidLength found expected => s!"invalid length {found}, expected {expected}"
  | invalidFormat reason => reason

/-- A value in words, as a message says what was found. -/
def found : Json → String
  | null => "null"
  | bool true => "boolean `true`"
  | bool false => "boolean `false`"
  | integer n => s!"integer `{Decimal.integerText n}`"
  | float x => s!"floating point `{Decimal.Layout.json.text x}`"
  | string s => s!"string {Text.quoted s}"
  | array _ => "sequence"
  | object _ => "map"

end CertaintyFactor.Json
