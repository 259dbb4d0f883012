/-!
# Command line arguments

The grammar of a row of arguments. An option is a name after two dashes or a letter after one;
letters may share their dash. The value of an option follows an equals sign, or the letter itself,
or is the next argument, which then must not begin with a dash. Two dashes alone end the options.

Reading goes from left to right and stops at the first fault, or at the first option that asks for
something else than a run, such as help.
-/

set_option autoImplicit false

namespace CertaintyFactor.Cli

inductive Parameter.Kind where
  /-- Nothing; the option stands at most once. -/
  | flag
  /-- Nothing; the option ends reading. -/
  | stop
  /-- A value that has to be accepted; the option stands at most once. -/
  | single (accepts : String → Bool)
  /-- A value that has to be accepted, each time the option stands. -/
  | many (accepts : String → Bool)

structure Parameter where
  name : String
  letter : Option Char := none
  kind : Parameter.Kind

namespace Parameter

def takesValue (p : Parameter) : Bool :=
  match p.kind with
  | .single _ | .many _ => true
  | .flag | .stop => false

def kindOf? (known : List Parameter) (name : String) : Option Kind :=
  (known.find? (·.name = name)).map (·.kind)

end Parameter

/-- An option as it was given, with its value if it takes one. -/
structure Given where
  name : String
  value : String := ""
deriving DecidableEq, Repr

inductive Reading where
  /-- Some options with their values. -/
  | options (given : List Given)
  /-- Some options, and one more whose value is the next argument. -/
  | awaiting (given : List Given) (name : String)
  /-- Some options, and something that is none. -/
  | unknown (given : List Given)
  | ending
  | word
deriving DecidableEq, Repr

namespace Reading

/-- The letters after a dash; `given` holds the options before them, the last one first. -/
def ofLetters (known : List Parameter) (given : List Given) : List Char → Reading
  | [] => options given.reverse
  | c :: rest =>
    match known.find? (·.letter = some c) with
    | none => unknown given.reverse
    | some p =>
      if p.takesValue then
        match rest with
        | [] => awaiting given.reverse p.name
        | '=' :: value => options (⟨p.name, .ofList value⟩ :: given).reverse
        | value => options (⟨p.name, .ofList value⟩ :: given).reverse
      else ofLetters known (⟨p.name, ""⟩ :: given) rest

/-- A name after two dashes, with the value after its equals sign if it has one. -/
def ofName (known : List Parameter) (text : List Char) : Reading :=
  let (name, value) := text.span (· ≠ '=')
  match known.find? (·.name = .ofList name), value with
  | none, _ => unknown []
  | some p, '=' :: value =>
    if p.takesValue then options [⟨p.name, .ofList value⟩] else unknown []
  | some p, _ => if p.takesValue then awaiting [] p.name else options [⟨p.name, ""⟩]

/-- What an argument says. A dash alone is no option. -/
def ofArgument (known : List Parameter) (argument : String) : Reading :=
  match argument.toList with
  | ['-', '-'] => ending
  | '-' :: '-' :: name => ofName known name
  | '-' :: c :: rest => ofLetters known [] (c :: rest)
  | _ => word

end Reading

inductive Rest where
  | done
  | word (text : String) (rest : List String)
  | fault
deriving DecidableEq, Repr

/-- Whether an argument can be the value of the option before it. -/
def isValue (argument : String) : Bool :=
  match argument.toList with
  | '-' :: _ :: _ => false
  | _ => true

/-- The options that arguments begin with, and how they go on. -/
def scan (known : List Parameter) : List String → List Given × Rest
  | [] => ([], .done)
  | argument :: rest =>
    match Reading.ofArgument known argument with
    | .options given =>
      let (more, last) := scan known rest
      (given ++ more, last)
    | .awaiting given name =>
      match rest with
      | value :: rest =>
        if isValue value then
          let (more, last) := scan known rest
          (given ++ ⟨name, value⟩ :: more, last)
        else (given, .fault)
      | [] => (given, .fault)
    | .unknown given => (given, .fault)
    | .ending => ([], if rest.isEmpty then .done else .fault)
    | .word => ([], .word argument rest)

/-- Why arguments ask for no run. -/
inductive Halt where
  | fault
  | stop (name : String)
deriving DecidableEq, Repr

/-- Fails at the first given option that is no good, with the names of the options before it at
hand. -/
def check (known : List Parameter) (before : List String) : List Given → Except Halt Unit
  | [] => .ok ()
  | g :: rest =>
    match Parameter.kindOf? known g.name with
    | some .stop => .error (.stop g.name)
    | some .flag =>
      if before.contains g.name then .error .fault else check known (g.name :: before) rest
    | some (.single accepts) =>
      if before.contains g.name || !accepts g.value then .error .fault
      else check known (g.name :: before) rest
    | some (.many accepts) => if accepts g.value then check known before rest else .error .fault
    | none => .error .fault

/-- The options that arguments begin with, all of them good, and the word that follows with what is
after it. -/
def readOptions (known : List Parameter) (arguments : List String) :
    Except Halt (List Given × Option (String × List String)) := do
  let (given, rest) := scan known arguments
  check known [] given
  match rest with
  | .done => return (given, none)
  | .word text rest => return (given, some (text, rest))
  | .fault => throw .fault

def valueOf? (name : String) (given : List Given) : Option String :=
  (given.find? (·.name = name)).map (·.value)

def valuesOf (name : String) (given : List Given) : List String :=
  (given.filter (·.name = name)).map (·.value)

def isGiven (name : String) (given : List Given) : Bool :=
  given.any (·.name = name)

end CertaintyFactor.Cli
