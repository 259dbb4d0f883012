import CertaintyFactor.Disk.Path
import CertaintyFactor.Environment
import CertaintyFactor.Json.Tree
import CertaintyFactor.Settings.Read
import CertaintyFactor.Toml.Parse

/-!
# Loading settings

Settings come in layers: the defaults, then a file if one is named, then the variables of the
environment. What a later layer sets counts.
-/

set_option autoImplicit false

namespace CertaintyFactor.Settings

/-- Settings by key, in the order they are set. -/
abbrev Layer := List (String × Value)

def defaults : Value :=
  .ofJson none (toJson {})

/-! ## Files -/

def ofTomlText (origin text : String) : Except Error Layer :=
  match Toml.parse text with
  | .ok document => .ok (Value.ofToml (some origin) document).asTable.2
  | .error e => .error (.toml origin e)

def ofJsonText (origin text : String) : Except Error Layer :=
  match Json.parse text with
  | .error e => .error (.json origin e)
  | .ok document =>
    match Value.ofJson (some origin) document with
    | .table _ members => .ok members
    | other => .error (.notTable origin other.rootWords)

/-- A text without the mark that some files begin with. -/
def withoutMark (text : String) : String :=
  match text.toList with
  | c :: rest => if c.toNat = 0xfeff then .ofList rest else text
  | [] => text

/-- How a format reads a text, told where the text is from. -/
abbrev Reader := String → String → Except Error Layer

/-- The formats of settings files by their extension. -/
def formats : List (String × Reader) :=
  [("toml", ofTomlText), ("json", ofJsonText)]

/-- The layer of a file's text in a format. -/
def ofFileText (path : String) (read : Reader) (text : String) : Except Error Layer :=
  read (Path.normal path) (withoutMark text)

/-- The files that a name without extension may stand for. -/
def candidates (name : String) : List (String × Reader) :=
  if (Path.fileName? name).isNone then []
  else formats.map fun (ext, read) => (s!"{Path.normal name}.{ext}", read)

section

variable {m : Type → Type} [Monad m] [Disk m]

/-- The text of a file, or why it cannot be read; nothing if there is no file. -/
def fileText? (path : String) : m (Option (Except Error String)) := do
  match ← Disk.readText path with
  | .ok text => return some (.ok text)
  | .error (.other e) => return some (.error (.unreadable (.other e)))
  | .error .notText => return some (.error (.unreadable .notText))
  | .error _ => return none

/-- The layer of the first file that is there. -/
def firstOf (name : String) : List (String × Reader) → m (Except Error Layer)
  | [] => return .error (.noFile name)
  | (path, read) :: rest => do
    match ← fileText? path with
    | some text => return text >>= ofFileText path read
    | none => firstOf name rest

/-- The layer of a named file. The extension of its name may be left out. -/
def ofFile (name : String) : m (Except Error Layer) := do
  match ← fileText? name with
  | none => firstOf name (candidates name)
  | some text =>
    match formats.lookup ((Path.extension? name).getD "") with
    | some read => return text >>= ofFileText name read
    | none => return .error (.unknownFormat name)

end

/-! ## Environments -/

/-- How the variables for settings begin, in any case. -/
def variableStart : String := "cfdx_"

/-- The key of a variable: two underscores stand between the parts of a key. -/
def dotted : List Char → List Char
  | '_' :: '_' :: rest => '.' :: dotted rest
  | c :: rest => c :: dotted rest
  | [] => []

/-- A whole number within 64 bits. -/
def integer? (text : List Char) : Option Int :=
  let (isNegative, row) := Decimal.Numeral.sign text
  let n : Int := Decimal.ofDigits row
  let n := if isNegative then -n else n
  if !row.isEmpty && row.all Char.isDigit && Binary64.minInt64 ≤ n && n ≤ Binary64.maxInt64 then
    some n
  else none

/-- The value a variable's text stands for. -/
def Scalar.ofVariable (text : String) : Scalar :=
  match Text.lower text with
  | "true" => .flag true
  | "false" => .flag false
  | _ =>
    match integer? text.toList with
    | some n => .integer n
    | none =>
      match Decimal.Numeral.read? text.toList with
      | some x => .float x
      | none => .text text

def ofEnvironment (environment : Environment) : Layer :=
  environment.filterMap fun (name, text) =>
    let name := (Text.lower name).toList
    if variableStart.toList.isPrefixOf name then
      some (.ofList (dotted (name.drop variableStart.length)),
        .scalar (some "the environment") (.ofVariable text))
    else none

/-! ## All layers -/

/-- The settings of some layers over the defaults. -/
def ofLayers (layers : List Layer) : Except Error Settings :=
  ofValue (layers.foldl Value.assignAll defaults)

/-- The settings of a file, if one is named, and an environment. -/
def load {m : Type → Type} [Monad m] [Disk m] (file : Option String) (environment : Environment) :
    m (Except Error Settings) := do
  match file with
  | none => return ofLayers [ofEnvironment environment]
  | some name =>
    match ← ofFile name with
    | .ok layer => return ofLayers [layer, ofEnvironment environment]
    | .error e => return .error e

end CertaintyFactor.Settings
