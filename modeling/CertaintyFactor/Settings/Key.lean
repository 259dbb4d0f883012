import CertaintyFactor.Settings.Value

/-!
# Keys of settings

A key leads from the whole of the settings to one value, as in `engine.tie_break` or `levels[2]`.
Setting a value at a key makes what is missing on the way and replaces what is of another form. A
table that is set over another value is merged into it member by member.
-/

set_option autoImplicit false

namespace CertaintyFactor.Settings

/-- One step into a value. A negative place counts from the end of a list. -/
inductive Step where
  | member (name : String)
  | item (place : Int)
deriving DecidableEq, Repr

/-- The steps from the whole of the settings to a value. -/
abbrev Key := List Step

namespace Key

def isNameChar (c : Char) : Bool :=
  c.isAlphanum || c = ' ' || c = '_' || c = '-'

/-- A name and the text after it. -/
def name? (text : List Char) : Option (Step × List Char) :=
  let (row, rest) := text.span isNameChar
  if row.isEmpty then none else some (.member (.ofList row), rest)

def isSpace (c : Char) : Bool :=
  c = ' ' || c = '\t'

/-- A place in a list up to its closing bracket, and the text after it. Places are of 64 bits. -/
def place? (text : List Char) : Option (Step × List Char) :=
  let text := text.dropWhile isSpace
  let (isNegative, text) := match text with
    | '-' :: rest => (true, rest)
    | _ => (false, text)
  let (row, rest) := text.span Char.isDigit
  let n : Int := Decimal.ofDigits row
  let place := if isNegative then -n else n
  match rest.dropWhile isSpace with
  | ']' :: rest =>
    if row.isEmpty || place < Binary64.minInt64 || Binary64.maxInt64 < place then none
    else some (.item place, rest)
  | _ => none

/-- The steps after the first name. -/
def steps? : Nat → List Char → Option Key
  | _, [] => some []
  | fuel + 1, '.' :: rest => do
    let (step, rest) ← name? rest
    return step :: (← steps? fuel rest)
  | fuel + 1, '[' :: rest => do
    let (step, rest) ← place? rest
    return step :: (← steps? fuel rest)
  | _, _ => none

/-- The key a text writes. A text that writes none is a name itself. -/
def ofText (text : String) : Key :=
  let key : Option Key := do
    let (first, rest) ← name? text.toList
    return first :: (← steps? rest.length rest)
  key.getD [.member text]

end Key

namespace Value

/-- The origin and the members of a table; what is none has neither. -/
def asTable : Value → Origin × List (String × Value)
  | table origin members => (origin, members)
  | _ => (none, [])

/-- The origin and the items of a list; what is none has neither. -/
def asList : Value → Origin × List Value
  | list origin items => (origin, items)
  | _ => (none, [])

mutual

/-- What stands where a value is set over another one, if there was one. -/
def onto : Value → Option Value → Value
  | table _ members, old => membersOnto members (old.getD (table none []))
  | value, _ => value

/-- What stands where some members are set into a value. -/
def membersOnto : List (String × Value) → Value → Value
  | [], target => target
  | (name, value) :: rest, target =>
    let (origin, members) := target.asTable
    membersOnto rest (table origin (put name (value.onto (members.lookup name)) members))

end

/-- The items with as many unset ones added as it takes to have a place, and the index of that
place. Items are added at the end, or in front for a place before the first one. -/
def withPlace (place : Int) (items : List Value) : List Value × Nat :=
  match (if place < 0 then items.length + place else place) with
  | .ofNat i => (items ++ List.replicate (i + 1 - items.length) unset, i)
  | .negSucc i => (List.replicate (i + 1) unset ++ items, 0)

/-- What a value becomes when another one is set at a key in it. -/
def assign (value : Value) : Key → Value → Value
  | [], old => value.onto (some old)
  | [.member name], old =>
    let (origin, members) := old.asTable
    table origin (put name (value.onto (members.lookup name)) members)
  | [.item place], old =>
    let (origin, items) := old.asList
    let (items, i) := withPlace place items
    list origin (items.set i value)
  | .member name :: key, old =>
    let (origin, members) := old.asTable
    table origin (put name (assign value key ((members.lookup name).getD unset)) members)
  | .item place :: key, old =>
    let (origin, items) := old.asList
    let (items, i) := withPlace place items
    list origin (items.set i (assign value key (items.getD i unset)))

/-- Settings with others set over them, each at the key its name writes. -/
def assignAll (settings : Value) (entries : List (String × Value)) : Value :=
  entries.foldl (fun settings (name, value) => assign value (.ofText name) settings) settings

end Value

end CertaintyFactor.Settings
