import CertaintyFactor.Cli.Arguments
import CertaintyFactor.Environment
import CertaintyFactor.Evaluation
import CertaintyFactor.Selection.Argument

/-!
# Requests

What a command line asks for: one of the commands with its options. Options for all commands may
stand before the command as well as after it, where they count more. Two options fall back on a
variable of the environment.
-/

set_option autoImplicit false

namespace CertaintyFactor.Cli

inductive Format where
  | table
  | json
deriving DecidableEq, Repr

structure DiagnoseRequest where
  catalog : Option String := none
  selection : Selection Binary64 := []
  explain : Bool := false
  format : Format := .table
  /-- Whether certainties out of range are refused, whatever the settings say. -/
  strict : Bool := false
  tieBreak : Option TieBreak := none
  /-- Whether the session is left out of the store. -/
  noRecord : Bool := false
deriving DecidableEq

structure SessionsRequest where
  store : Option String := none
  list : Bool := false
  limit : Nat := 20
  format : Format := .table
deriving DecidableEq, Repr

inductive Command where
  | diagnose (request : DiagnoseRequest)
  | validate (catalog : Option String) (format : Format)
  | levels (format : Format)
  | sessions (request : SessionsRequest)
  | config
deriving DecidableEq

structure Request where
  config : Option String := none
  logJson : Bool := false
  command : Command
deriving DecidableEq

namespace Request

/-! ## Options -/

def formats : List (String × Format) :=
  [("table", .table), ("json", .json)]

def tieBreaks : List (String × TieBreak) :=
  [("damage-id", .damageId), ("rule-order", .ruleOrder)]

/-- A natural number of at most 64 bits, which may have a plus sign. -/
def natural? (text : String) : Option Nat :=
  let row := match text.toList with
    | '+' :: row => row
    | row => row
  let n := Decimal.ofDigits row
  if !row.isEmpty && row.all Char.isDigit && n ≤ 0xffffffffffffffff then some n else none

def reported? (text : String) : Option (Reported Binary64) :=
  (Reported.parse text).toOption

def isPath (text : String) : Bool :=
  text ≠ ""

def helpOption : Parameter :=
  ⟨"help", some 'h', .stop⟩

/-- The options for all commands. -/
def globalOptions : List Parameter :=
  [⟨"config", none, .single fun _ => true⟩, ⟨"verbose", some 'v', .flag⟩,
    ⟨"log-json", none, .flag⟩, helpOption]

/-- The options that stand before the command. -/
def rootOptions : List Parameter :=
  ⟨"version", some 'V', .stop⟩ :: globalOptions

def catalogOption : Parameter :=
  ⟨"catalog", some 'c', .single isPath⟩

def formatOption : Parameter :=
  ⟨"format", some 'f', .single fun text => (formats.lookup text).isSome⟩

def diagnoseOptions : List Parameter :=
  [catalogOption, ⟨"symptom", some 's', .many fun text => (reported? text).isSome⟩,
    ⟨"explain", none, .flag⟩, formatOption, ⟨"strict", none, .flag⟩,
    ⟨"tie-break", none, .single fun text => (tieBreaks.lookup text).isSome⟩,
    ⟨"no-record", none, .flag⟩]

def validateOptions : List Parameter :=
  [catalogOption, formatOption]

def sessionsOptions : List Parameter :=
  [⟨"store", none, .single isPath⟩, ⟨"list", some 'l', .flag⟩,
    ⟨"limit", some 'n', .single fun text => (natural? text).isSome⟩, formatOption]

/-! ## Commands -/

def formatOf (given : List Given) : Format :=
  ((valueOf? "format" given).bind fun text => formats.lookup text).getD .table

/-- The catalog that options or else the environment name. -/
def catalogOf (environment : Environment) (given : List Given) : Except Halt (Option String) :=
  match valueOf? "catalog" given with
  | some path => .ok (some path)
  | none =>
    let path := environment.lookup "CFDX_CATALOG"
    if path.all isPath then .ok path else .error .fault

def diagnoseOf (environment : Environment) (given : List Given) : Except Halt Command := do
  return .diagnose {
    catalog := ← catalogOf environment given
    selection := (valuesOf "symptom" given).filterMap reported?
    explain := isGiven "explain" given
    format := formatOf given
    strict := isGiven "strict" given
    tieBreak := (valueOf? "tie-break" given).bind fun text => tieBreaks.lookup text
    noRecord := isGiven "no-record" given }

def validateOf (environment : Environment) (given : List Given) : Except Halt Command := do
  return .validate (← catalogOf environment given) (formatOf given)

def sessionsOf (given : List Given) : Command :=
  let defaults : SessionsRequest := {}
  .sessions {
    store := valueOf? "store" given
    list := isGiven "list" given
    limit := ((valueOf? "limit" given).bind natural?).getD defaults.limit
    format := formatOf given }

/-- How a command is read: its options, and its request by those that were given. -/
structure Form where
  options : List Parameter
  read : Environment → List Given → Except Halt Command

def forms : List (String × Form) :=
  [("diagnose", ⟨diagnoseOptions, diagnoseOf⟩), ("validate", ⟨validateOptions, validateOf⟩),
    ("levels", ⟨[formatOption], fun _ given => .ok (.levels (formatOf given))⟩),
    ("sessions", ⟨sessionsOptions, fun _ given => .ok (sessionsOf given)⟩),
    ("config", ⟨[], fun _ _ => .ok .config⟩)]

/-- Whether a row of words asks for help on something that there is. -/
def isHelp : List String → Bool
  | [] => true
  | [name] => name = "help" || (forms.lookup name).isSome
  | _ => false

def parse (environment : Environment) (arguments : List String) : Except Halt Request := do
  let (before, word) ← readOptions rootOptions arguments
  match word with
  | none => throw .fault
  | some ("help", rest) => throw (if isHelp rest then .stop "help" else .fault)
  | some (name, rest) =>
    match forms.lookup name with
    | none => throw .fault
    | some form =>
      let (given, word) ← readOptions (globalOptions ++ form.options) rest
      if word.isSome then throw .fault
      let command ← form.read environment given
      let config := valueOf? "config" given <|> valueOf? "config" before <|>
        environment.lookup "CFDX_CONFIG"
      return { config, logJson := isGiven "log-json" (given ++ before), command }

end Request

end CertaintyFactor.Cli
