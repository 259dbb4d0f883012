import CertaintyFactor.Json.Value

/-!
# Writing JSON

A document is written on one line, or laid out over several with two spaces for each level. Quotes,
backslashes and controls are escaped in strings; all other characters stand as they are. What is no
number is written as `null`.
-/

set_option autoImplicit false

namespace CertaintyFactor.Json

def hexPair (n : Nat) : List Char :=
  [Nat.digitChar (n / 16 % 16), Nat.digitChar (n % 16)]

/-- A character as it stands in a string. -/
def stringChar (c : Char) : List Char :=
  if c = '"' || c = '\\' then ['\\', c]
  else if c.toNat = 8 then ['\\', 'b']
  else if c = '\t' then ['\\', 't']
  else if c = '\n' then ['\\', 'n']
  else if c.toNat = 12 then ['\\', 'f']
  else if c = '\r' then ['\\', 'r']
  else if c.toNat < 0x20 then ['\\', 'u', '0', '0'] ++ hexPair c.toNat
  else [c]

def stringText (text : String) : List Char :=
  '"' :: text.toList.flatMap stringChar ++ ['"']

def scalarText : Json → List Char
  | bool true => "true".toList
  | bool false => "false".toList
  | integer n => (Decimal.integerText n).toList
  | float x => (Decimal.Layout.json.text x).toList
  | string s => stringText s
  | _ => "null".toList

mutual

/-- A document on one line. -/
def compactChars : Json → List Char
  | array items => '[' :: compactItems true items
  | object members => '\x7b' :: compactMembers true members
  | value => scalarText value

/-- The rest of an array, where `first` says that no item stands before. -/
def compactItems (first : Bool) : List Json → List Char
  | [] => [']']
  | item :: rest =>
    (if first then [] else [',']) ++ compactChars item ++ compactItems false rest

/-- The rest of an object, where `first` says that no member stands before. -/
def compactMembers (first : Bool) : List (String × Json) → List Char
  | [] => ['\x7d']
  | (name, value) :: rest =>
    (if first then [] else [',']) ++ stringText name ++ ':' :: compactChars value ++
      compactMembers false rest

end

/-- A new line at a level. -/
def indentation (level : Nat) : List Char :=
  '\n' :: List.replicate (2 * level) ' '

mutual

/-- A document laid out from a level on. -/
def prettyChars (level : Nat) : Json → List Char
  | array [] => ['[', ']']
  | array items => '[' :: prettyItems (level + 1) true items
  | object [] => ['\x7b', '\x7d']
  | object members => '\x7b' :: prettyMembers (level + 1) true members
  | value => scalarText value

/-- The rest of an array whose items stand at a level. -/
def prettyItems (level : Nat) (first : Bool) : List Json → List Char
  | [] => indentation (level - 1) ++ [']']
  | item :: rest =>
    (if first then [] else [',']) ++ indentation level ++ prettyChars level item ++
      prettyItems level false rest

/-- The rest of an object whose members stand at a level. -/
def prettyMembers (level : Nat) (first : Bool) : List (String × Json) → List Char
  | [] => indentation (level - 1) ++ ['\x7d']
  | (name, value) :: rest =>
    (if first then [] else [',']) ++ indentation level ++ stringText name ++ ':' :: ' ' ::
      prettyChars level value ++ prettyMembers level false rest

end

def compact (document : Json) : String :=
  .ofList (compactChars document)

def pretty (document : Json) : String :=
  .ofList (prettyChars 0 document)

end CertaintyFactor.Json
