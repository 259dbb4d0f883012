import CertaintyFactor.Disk.Basic
import CertaintyFactor.Json.Error
import CertaintyFactor.Settings
import CertaintyFactor.Settings.Key

/-!
# Reading settings

The settings that a tree of values stands for. Values convert between types where the meaning is
plain: a number or a word can be a flag, and a flag or a number can be a text. A record is a table,
or a list of its fields in order. Names that are not known are passed over.
-/

set_option autoImplicit false

namespace CertaintyFactor.Settings

inductive Error where
  | noFile (name : String)
  | unknownFormat (name : String)
  | unreadable (reason : DiskError)
  | toml (origin : String) (reason : Toml.Error)
  | json (origin : String) (reason : Json.Error)
  /-- A document that is no table, with what it is in words. -/
  | notTable (origin found : String)
  /-- A value of another type than expected; both are given in words. -/
  | wrongType (found expected key : String) (origin : Origin)
  /-- A value where a record is expected; both are given in words. -/
  | notRecord (found expected : String)
  | unknownChoice (type name : String)
  | notChoice (type : String)
deriving DecidableEq, Repr

/-- Where a value was set, as messages end. -/
def Origin.suffix (origin : Origin) : String :=
  (origin.map (" in " ++ ·)).getD ""

def Error.message : Error → String
  | noFile name => s!"configuration file \"{name}\" not found"
  | unknownFormat name => s!"configuration file \"{name}\" is not of a registered file format"
  | unreadable reason => reason.message
  | toml origin reason => s!"TOML parse error: {reason.message} in {origin}"
  | json origin reason => s!"{reason.message} in {origin}"
  | notTable origin found => s!"invalid type: {found}, expected a map in {origin} in {origin}"
  | wrongType found expected key origin =>
    s!"invalid type: {found}, expected {expected} for key `{key}`" ++ origin.suffix
  | notRecord found expected => s!"invalid type: {found}, expected {expected}"
  | unknownChoice type name => s!"enum {type} does not have variant constructor {name}"
  | notChoice type =>
    s!"value of enum {type} should be represented by either string or table with exactly one key"

namespace Value

/-- The layout of numbers in messages about records, where a whole number keeps its point. -/
def recordLayout : Decimal.Layout :=
  { Decimal.Layout.plain with whole := ".0" }

/-- A value in words, with the given word for integers and numbers in the given layout. -/
def words (integerWord : String) (layout : Decimal.Layout) : Value → String
  | scalar _ content => content.words integerWord layout
  | list .. => "sequence"
  | table .. => "map"

/-- A value in words where a file has to hold a table. -/
def rootWords (v : Value) : String :=
  v.words "64-bit integer" .plain

/-- A value in words where a record has to stand. -/
def recordWords (v : Value) : String :=
  v.words "integer" recordLayout

/-- A flag. Of numbers only zero is off; the words for on and off count in any case. -/
def flag (key : String) : Value → Except Error Bool
  | scalar _ (.flag b) => .ok b
  | scalar _ (.integer n) => .ok (n ≠ 0)
  | scalar _ (.float x) => .ok !x.isZero
  | scalar origin (.text s) =>
    let word := Text.lower s
    if ["1", "true", "on", "yes"].contains word then .ok true
    else if ["0", "false", "off", "no"].contains word then .ok false
    else .error (.wrongType s!"string {Text.quoted word}" "a boolean" key origin)
  | other => .error (.wrongType other.rootWords "a boolean" key other.origin)

def text (key : String) : Value → Except Error String
  | scalar _ (.text s) => .ok s
  | scalar _ (.flag b) => .ok (if b then "true" else "false")
  | scalar _ (.integer n) => .ok (Decimal.integerText n)
  | scalar _ (.float x) => .ok (Decimal.Layout.plain.text x)
  | other => .error (.wrongType other.rootWords "a string" key other.origin)

def text? (key : String) : Value → Except Error (Option String)
  | scalar _ .unset => .ok none
  | other => (other.text key).map some

/-- One of some names, in any case: as a text, or as the only name in a table. -/
def choice {α : Type} (type : String) (names : List (String × α)) : Value → Except Error α
  | scalar _ (.text s) => named s
  | table _ [(name, _)] => named name
  | _ => .error (.notChoice type)
where
  named (name : String) : Except Error α :=
    match names.find? fun (known, _) => Text.lower known = Text.lower name with
    | some (_, a) => .ok a
    | none => .error (.unknownChoice type name)

/-- Fails unless a value can be the record that is given in words. -/
def checkRecord (expected : String) (v : Value) : Except Error Unit :=
  match v with
  | scalar .. => .error (.notRecord v.recordWords expected)
  | _ => .ok ()

/-- The full key of a record's field and its value: in a table by its name, in a list by its place.
-/
def field (record : Value) (key : String) (place : Nat) (name : String) :
    String × Option Value :=
  match record with
  | table _ members => (if key = "" then name else s!"{key}.{name}", members.lookup name)
  | list _ items => (s!"{key}[{place}]", items[place]?)
  | scalar .. => (key, none)

/-- A record's field read by the given reader, or its default when it is missing. -/
def read {α : Type} (record : Value) (key : String) (place : Nat) (name : String)
    (reader : String → Value → Except Error α) (default : α) : Except Error α :=
  match record.field key place name with
  | (fullKey, some v) => reader fullKey v
  | (_, none) => .ok default

end Value

def engineOf (key : String) (v : Value) : Except Error Config := do
  v.checkRecord "struct EngineConfig"
  let tieBreaks := [TieBreak.damageId, .ruleOrder].map fun t => (t.name, t)
  return {
    tieBreak := ← v.read key 0 "tie_break" (fun _ => Value.choice "TieBreak" tieBreaks) default
    strictRanges := ← v.read key 1 "strict_ranges" Value.flag false }

def storeOf (key : String) (v : Value) : Except Error (Option String) := do
  v.checkRecord "struct SessionsConfig"
  v.read key 0 "store" Value.text? none

/-- The level of the log, and whether it is written as JSON. -/
def loggingOf (key : String) (v : Value) : Except Error (String × Bool) := do
  v.checkRecord "struct LoggingConfig"
  let defaults : Settings := {}
  return (← v.read key 0 "level" Value.text defaults.logLevel,
    ← v.read key 1 "json" Value.flag defaults.logJson)

def ofValue (v : Value) : Except Error Settings := do
  let defaults : Settings := {}
  let catalog ← v.read "" 0 "catalog" Value.text? defaults.catalog
  let engine ← v.read "" 1 "engine" engineOf defaults.engine
  let store ← v.read "" 2 "sessions" storeOf defaults.store
  let (logLevel, logJson) ←
    v.read "" 3 "logging" loggingOf (defaults.logLevel, defaults.logJson)
  return { catalog, engine, store, logLevel, logJson }

end CertaintyFactor.Settings
