import CertaintyFactor.Json.Error

/-!
# Schemas

A schema says what form a document has. Reading by a schema gives the document in normal form: the
fields of a record in their declared order with defaults filled in, unknown fields dropped, optional
fields without a value left out, and numbers of the declared type. A record may also be written as
an array of its fields.

This module holds the forms and reads documents that are trees already. A tagged union needs that
even in a text, since its tag may come after its fields.
-/

set_option autoImplicit false

namespace CertaintyFactor.Json

/-- The form of a value without parts. -/
inductive Scalar where
  | text
  | float
  /-- A signed 64-bit integer. -/
  | signed
  /-- An unsigned 64-bit integer. -/
  | count
  | flag
  | unit
  | oneOf (names : List String)
  /-- A string in a format, which is described in words and brought to normal form. -/
  | formatted (words : String) (normalize : String → Except String String)

inductive Presence where
  | required
  /-- A missing or null field has no value and is left out. -/
  | optional
  | default (value : Json)

/-- One kind of a tagged union: its tag, what it is called in messages, and its fields. -/
structure Variant where
  tag : String
  words : String
  fields : List (String × Scalar)

inductive Schema where
  | scalar (form : Scalar)
  | list (item : Schema)
  /-- One of some names, or an object with that name and no value. -/
  | choice (names : List String)
  | record (words : String) (fields : List (String × Presence × Schema))
  /-- A record of one of several kinds, which the field with the given name tells. -/
  | tagged (words tag : String) (variants : List Variant)

namespace Scalar

/-- What a value of the form is called in messages. -/
def words : Scalar → String
  | text => "a string"
  | float => "f64"
  | signed => "i64"
  | count => "usize"
  | flag => "a boolean"
  | unit => "unit"
  | oneOf _ => "variant identifier"
  | formatted words _ => words

def inRange (form : Scalar) (least most n : Int) : Except Error Json :=
  if least ≤ n ∧ n ≤ most then .ok (.integer n)
  else .error (.invalidValue (Json.integer n).found form.words)

/-- A value in the normal form of a scalar. -/
def ofTree (form : Scalar) (value : Json) : Except Error Json :=
  match form, value with
  | text, .string s => .ok (.string s)
  | float, .integer n => .ok (.float (.ofInt n))
  | float, .float x => .ok (.float x)
  | signed, .integer n => inRange signed Binary64.minInt64 Binary64.maxInt64 n
  | count, .integer n => inRange count 0 0xffffffffffffffff n
  | flag, .bool b => .ok (.bool b)
  | unit, .null => .ok .null
  | oneOf names, .string s =>
    if s ∈ names then .ok (.string s) else .error (.unknownVariant s names)
  | formatted _ normalize, .string s =>
    match normalize s with
    | .ok normal => .ok (.string normal)
    | .error reason => .error (.invalidFormat reason)
  | form, value => .error (.invalidType value.found form.words)

end Scalar

/-- A field of a record with the way it is read. -/
structure Field (R : Type) where
  name : String
  presence : Presence
  read : R

/-- The values of a record's fields read so far, the last one first. -/
abbrev FieldValues := List (String × Option Json)

namespace Field

variable {R : Type}

/-- The value a missing field takes; a required one may not be missing. -/
def missing? (field : Field R) : Option (Option Json) :=
  match field.presence with
  | .required => none
  | .optional => some none
  | .default value => some (some value)

/-- The value of a field, given what was read, or an error when it is missing and required. -/
def value (field : Field R) (values : FieldValues) (e : Error) : Except Error (Option Json) :=
  match values.lookup field.name <|> field.missing? with
  | some value => .ok value
  | none => .error e

/-- The record that has the values read. -/
def toObject (fields : List (Field R)) (values : FieldValues) : Except Error Json := do
  let members ← fields.mapM fun f => do
    return (← f.value values (.missingField f.name)).map fun v => (f.name, v)
  return .object members.reduceOption

/-- What a record with its number of fields is called in messages. -/
def counted (words : String) (n : Nat) : String :=
  s!"{words} with {n} element" ++ if n = 1 then "" else "s"

/-- The record whose first fields were read from the items of an array. -/
def ofItems (words : String) (fields : List (Field R)) (values : FieldValues) :
    Except Error Json := do
  let members ← fields.zipIdx.mapM fun (f, i) => do
    let e := Error.invalidLength i (counted words fields.length)
    return (← f.value values e).map fun v => (f.name, v)
  return .object members.reduceOption

end Field

/-- Reads a field out of a tree. -/
abbrev TreeField := Field (Json → Except Error Json)

namespace TreeField

/-- The value of a field, where an optional one may be null. -/
def ofTree (field : TreeField) (value : Json) : Except Error (Option Json) :=
  match field.presence, value with
  | .optional, .null => .ok none
  | _, value => return some (← field.read value)

/-- The values of the fields among the members of an object. -/
def ofMembers (fields : List TreeField) :
    FieldValues → List (String × Json) → Except Error FieldValues
  | values, [] => .ok values
  | values, (name, value) :: rest =>
    match fields.find? (·.name == name) with
    | none => ofMembers fields values rest
    | some field =>
      if (values.lookup name).isSome then .error (.duplicateField name)
      else do ofMembers fields ((name, ← field.ofTree value) :: values) rest

/-- The values of the fields that the items of an array hold, field by field. -/
def ofItems : List TreeField → List Json → Except Error FieldValues
  | field :: fields, item :: items => do
    let value ← field.ofTree item
    return (field.name, value) :: (← ofItems fields items)
  | _, _ => .ok []

/-- The record that a tree holds. An array may have more items than there are fields only where
`surplus` says so. -/
def record (words : String) (surplus : Bool) (fields : List TreeField) (value : Json) :
    Except Error Json :=
  match value with
  | .object members => do Field.toObject fields (← ofMembers fields [] members)
  | .array items => do
    let object ← Field.ofItems words fields (← ofItems fields items)
    if !surplus && fields.length < items.length then
      .error (.invalidLength items.length
        (s!"{fields.length} element" ++ (if fields.length = 1 then "" else "s") ++ " in sequence"))
    else return object
  | value => .error (.invalidType value.found words)

end TreeField

namespace Variant

def readers (v : Variant) : List TreeField :=
  v.fields.map fun (name, form) => ⟨name, .required, form.ofTree⟩

/-- A value of a variant, put together from its tag and the rest of its document. -/
def ofTree (v : Variant) (tag : String) (rest : Json) : Except Error Json := do
  match ← TreeField.record v.words false v.readers rest with
  | .object members => return .object ((tag, .string v.tag) :: members)
  | other => return other

def tagForm (variants : List Variant) : Scalar :=
  .oneOf (variants.map (·.tag))

def select (variants : List Variant) (tag : String) (name : Json) (rest : Json) :
    Except Error Json := do
  match ← (tagForm variants).ofTree name with
  | .string s =>
    match variants.find? (·.tag == s) with
    | some v => v.ofTree tag rest
    | none => .error (.unknownVariant s (variants.map (·.tag)))
  | other => return other

end Variant

namespace Schema

def words : Schema → String
  | scalar form => form.words
  | list _ => "a sequence"
  | choice _ => "variant identifier"
  | record words _ => words
  | tagged words .. => words

mutual

/-- A document in the normal form of a schema. An array may have more items than the record it is
read as has fields. -/
def ofTree : Schema → Json → Except Error Json
  | scalar form, value => form.ofTree value
  | list item, .array items => do return .array (← items.mapM item.ofTree)
  | list _, value => .error (.invalidType value.found "a sequence")
  | choice names, .object [(name, value)] => do
    discard (Scalar.unit.ofTree value)
    (Scalar.oneOf names).ofTree (.string name)
  | choice names, value => (Scalar.oneOf names).ofTree value
  | record words fields, value => TreeField.record words true (treeFields fields) value
  | tagged _ tag variants, .object members =>
    match members.lookup tag with
    | some name => Variant.select variants tag name (.object (members.filter (·.1 != tag)))
    | none => .error (.missingField tag)
  | tagged words .., value => .error (.invalidType value.found words)

/-- The ways the fields of a record are read. -/
def treeFields : List (String × Presence × Schema) → List TreeField
  | [] => []
  | (name, presence, schema) :: rest =>
    ⟨name, presence, schema.ofTree⟩ :: treeFields rest

end

end Schema

end CertaintyFactor.Json
