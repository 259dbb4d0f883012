import CertaintyFactor.Json.Schema
import CertaintyFactor.Json.Skip
import CertaintyFactor.Json.Tree

/-!
# Reading by a schema

Reads a text straight into the normal form of a schema. The first fault of the text, from left to
right, is the error: a field of the wrong type is noticed before a comma that is missing after it,
and a field that is missing only at the end of its record.
-/

set_option autoImplicit false

namespace CertaintyFactor.Json

open Reader

/-- Reads a field out of a text. -/
abbrev TextField := Field (Reader Json)

namespace Schema

/-- A result about a value that has just been read. -/
def settle (result : Except Error Json) : Reader Json :=
  match result with
  | .ok value => return value
  | .error e => fail e

/-- The value that comes next, as far as a message needs it: of an array or object only the kind. -/
def glance : Reader Json := do
  match ← valueStart with
  | '[' => return .array []
  | '\x7b' => return .object []
  | _ => Tree.scalar

/-- Fails over the value that comes next, which is not what the words say. -/
def unexpected (words : String) : Reader Json := do
  fail (.invalidType (← glance).found words)

def readScalar (form : Scalar) : Reader Json := do
  settle (form.ofTree (← glance))

/-- Drops an opening bracket and reads what is inside, unless too many brackets are open. -/
def inside {α : Type} (depth : Nat) (reader : Nat → Reader α) : Reader α :=
  match depth with
  | 0 => fail .recursionLimit
  | depth + 1 => do
    skip
    reader depth

/-- One of some names, or an object with that name and no value. -/
def readChoice (names : List String) (depth : Nat) : Reader Json := do
  match ← valueStart with
  | '"' => readScalar (.oneOf names)
  | '\x7b' =>
    inside depth fun _ => do
      if ← hasMember true then
        let value ← readScalar (.oneOf names)
        colon
        discard (readScalar .unit)
        match ← token? with
        | some '\x7d' =>
          skip
          return value
        | some _ => fail .expectedValue
        | none => fail .endOfObject
      else fail .expectedValue
  | _ => fail .expectedValue

end Schema

namespace TextField

/-- The value of a field, where an optional one may be null. -/
def value (field : TextField) : Reader (Option Json) := do
  match field.presence with
  | .optional =>
    if (← token?) = some 'n' then
      word "null".toList
      return none
    else return some (← field.read)
  | _ => return some (← field.read)

/-- One member of a record: a field not read before, or one that is passed over. -/
def member (fields : List TextField) (values : FieldValues) : Reader FieldValues := do
  let name ← Text.quoted
  match fields.find? (·.name == name) with
  | some field =>
    if (values.lookup name).isSome then fail (.duplicateField name)
    else
      colon
      return (name, ← field.value) :: values
  | none =>
    colon
    Skip.value
    return values

/-- The values of fields, one after the other, as long as there are items. -/
def itemValues (isFirst : Bool) : List TextField → Reader FieldValues
  | [] => return []
  | field :: fields => do
    if ← hasItem isFirst then
      let value ← field.value
      return (field.name, value) :: (← itemValues false fields)
    else return []

def record (words : String) (fields : Nat → List TextField) (depth : Nat) : Reader Json := do
  match ← valueStart with
  | '\x7b' =>
    Schema.inside depth fun depth => do
      let values ← members (member (fields depth)) []
      Schema.settle (Field.toObject (fields depth) values)
  | '[' =>
    Schema.inside depth fun depth => do
      let values ← itemValues true (fields depth)
      let value ← Schema.settle (Field.ofItems words (fields depth) values)
      endList
      return value
  | _ => Schema.unexpected words

end TextField

namespace Variant

/-- One member of a tagged record: its tag, or a field kept as a tree until the tag is known. -/
def member (variants : List Variant) (tag : String) (depth : Nat)
    (read : Option Json × List (String × Json)) : Reader (Option Json × List (String × Json)) := do
  let name ← Text.quoted
  if name = tag then
    if read.1.isSome then fail (.duplicateField tag)
    else
      colon
      return (some (← Schema.readScalar (tagForm variants)), read.2)
  else
    colon
    return (read.1, (name, ← Tree.value depth) :: read.2)

/-- The tagged record that comes next. As an array it has its tag first. -/
def read (words tag : String) (variants : List Variant) (depth : Nat) : Reader Json := do
  match ← valueStart with
  | '\x7b' =>
    Schema.inside depth fun depth => do
      let (name, rest) ← members (member variants tag depth) (none, [])
      match name with
      | some name => Schema.settle (select variants tag name (.object rest.reverse))
      | none => fail (.missingField tag)
  | '[' =>
    Schema.inside depth fun depth => do
      if ← hasItem true then
        let name ← Schema.readScalar (tagForm variants)
        let step := fun acc => do return (← Tree.value depth) :: acc
        let rest ← foldItems step (← get) false []
        endList
        Schema.settle (select variants tag name (.array rest.reverse))
      else fail (.missingField tag)
  | _ => Schema.unexpected words

end Variant

namespace Schema

mutual

/-- Reads the value that comes next, with at most the given number of brackets open in it. -/
def read : Schema → Nat → Reader Json
  | scalar form, _ => readScalar form
  | list item, depth => do
    if (← valueStart) = '[' then
      inside depth fun depth => return .array (← items (item.read depth))
    else unexpected "a sequence"
  | choice names, depth => readChoice names depth
  | record words fields, depth => TextField.record words (textFields fields) depth
  | tagged words tag variants, depth => Variant.read words tag variants depth

/-- The ways the fields of a record are read, inside the given number of brackets. -/
def textFields : List (String × Presence × Schema) → Nat → List TextField
  | [], _ => []
  | (name, presence, schema) :: rest, depth =>
    ⟨name, presence, schema.read depth⟩ :: textFields rest depth

end

def parse (schema : Schema) (text : String) : Except Error Json :=
  run (schema.read nestingLimit) text

end Schema

end CertaintyFactor.Json
