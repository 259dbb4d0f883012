import CertaintyFactor.Disk.Basic
import CertaintyFactor.Disk.Path
import CertaintyFactor.Document.Catalog
import CertaintyFactor.Json.Schema.Read
import CertaintyFactor.Json.Write
import CertaintyFactor.Role
import CertaintyFactor.Toml.Parse
import CertaintyFactor.Warning

/-!
# Catalog files

A catalog file is written in JSON or in TOML, as its extension tells. Both formats read by the same
schema.
-/

set_option autoImplicit false

namespace CertaintyFactor.Catalog

inductive Format where
  | json
  | toml
deriving DecidableEq, Repr

/-- Why a catalog could not be read or changed. -/
inductive Error where
  /-- The role may not do what the words say. -/
  | forbidden (role : Role) (action : String)
  | notFound (collection : Collection) (code : String)
  | unreadable (path : String) (reason : DiskError)
  | json (reason : Json.Error)
  | toml (reason : Toml.Error)
  /-- A TOML document of another form than a catalog. -/
  | tomlForm (reason : Json.Error)
  | unsupportedFormat (name : String)
deriving DecidableEq, Repr

def Error.message : Error → String
  | forbidden role action => s!"{role.name} may not {action}"
  | notFound collection code => s!"{collection.singular} {code} not found"
  | unreadable path reason => s!"failed to read catalog {path}: {reason.message}"
  | json reason => s!"invalid JSON catalog: {reason.message}"
  | toml reason => s!"invalid TOML catalog: {reason.message}"
  | tomlForm reason => s!"invalid TOML catalog: {reason.message}"
  | unsupportedFormat name => s!"unsupported catalog format: {name}"

/-- The name of a format, which is also its extension. -/
def Format.name : Format → String
  | json => "json"
  | toml => "toml"

/-- The format of a file by its extension, in either case. Without an extension the whole path is
named as unsupported. -/
def Format.ofPath (path : String) : Except Error Format :=
  let ext := ((Path.extension? path).getD "").toList.map Char.toLower
  match String.ofList ext with
  | "json" => .ok json
  | "toml" => .ok toml
  | "" => .error (.unsupportedFormat path)
  | other => .error (.unsupportedFormat other)

def parseJson (text : String) : Except Json.Error (Catalog Binary64) := do
  match ofJson? (← schema.parse text) with
  | some catalog => return catalog
  | none => throw .expectedValue

def ofToml (document : Toml) : Except Json.Error (Catalog Binary64) := do
  match ofJson? (← schema.ofTree document.toJson) with
  | some catalog => return catalog
  | none => throw .expectedValue

def parse (format : Format) (text : String) : Except Error (Catalog Binary64) :=
  match format with
  | .json => (parseJson text).mapError .json
  | .toml =>
    match Toml.parse text with
    | .error e => .error (.toml e)
    | .ok document => (ofToml document).mapError .tomlForm

def pretty (catalog : Catalog Binary64) : String :=
  catalog.toJson.pretty

end CertaintyFactor.Catalog
