import CertaintyFactor.Json.Error

/-!
# Readers

A reader takes some characters off the front of a text and gives a value, or an error. This module
holds the plain ones: blanks, words, and the punctuation of lists and objects, which stops at the
first fault. `items` and `members` read the inside of an array or object by a reader of one item or
of one member's value.
-/

set_option autoImplicit false

namespace CertaintyFactor.Json

/-- Takes characters off the front of a text. -/
abbrev Reader := StateT (List Char) (Except Error)

namespace Reader

def fail {α : Type} (e : Error) : Reader α :=
  throw e

def first? : Reader (Option Char) := do
  return (← get).head?

def skip : Reader Unit :=
  modify List.tail

/-- Whether a character may stand between the parts of a document. -/
def isSpace (c : Char) : Bool :=
  c = ' ' || c = '\n' || c = '\t' || c = '\r'

/-- The first character after blanks, which are dropped. -/
def token? : Reader (Option Char) := do
  modify (·.dropWhile isSpace)
  first?

/-- The first character after blanks, where a value has to begin. -/
def valueStart : Reader Char := do
  match ← token? with
  | some c => return c
  | none => fail .endOfValue

def word : List Char → Reader Unit
  | [] => pure ()
  | c :: rest => do
    match ← first? with
    | none => fail .endOfValue
    | some d =>
      if c = d then
        skip
        word rest
      else fail .expectedWord

/-- Whether a list goes on with an item; a comma before it is dropped. -/
def hasItem (isFirst : Bool) : Reader Bool := do
  match ← token? with
  | none => fail .endOfList
  | some ']' => return false
  | some c =>
    if isFirst then return true
    else if c = ',' then
      skip
      match ← token? with
      | some ']' => fail .trailingComma
      | some _ => return true
      | none => fail .endOfValue
    else fail .expectedListCommaOrEnd

/-- The end of a list all of whose expected items were read. -/
def endList : Reader Unit := do
  match ← token? with
  | some ']' => skip
  | some ',' =>
    skip
    match ← token? with
    | some ']' => fail .trailingComma
    | _ => fail .trailingCharacters
  | some _ => fail .trailingCharacters
  | none => fail .endOfList

/-- Whether an object goes on with a member; a comma before it is dropped. -/
def hasMember (isFirst : Bool) : Reader Bool := do
  match ← token? with
  | none => fail .endOfObject
  | some '\x7d' => return false
  | some c =>
    if isFirst then
      if c = '"' then return true else fail .keyNotString
    else if c = ',' then
      skip
      match ← token? with
      | some '"' => return true
      | some '\x7d' => fail .trailingComma
      | some _ => fail .keyNotString
      | none => fail .endOfValue
    else fail .expectedObjectCommaOrEnd

def colon : Reader Unit := do
  match ← token? with
  | some ':' => skip
  | some _ => fail .expectedColon
  | none => fail .endOfObject

/-- The end of the text, blanks aside. -/
def endText : Reader Unit := do
  match ← token? with
  | some _ => fail .trailingCharacters
  | none => pure ()

/-- Folds over the items of a list whose bracket is open, up to the closing bracket, which stays.
The text itself is the fuel: each round drops one character of it and reads one at least, so when
the fuel is used up the text is as well. -/
def foldItems {α : Type} (step : α → Reader α) : List Char → Bool → α → Reader α
  | [], _, _ => fail .endOfList
  | _ :: fuel, isFirst, acc => do
    if ← hasItem isFirst then
      foldItems step fuel false (← step acc)
    else return acc

def items {α : Type} (item : Reader α) : Reader (List α) := do
  let reversed ← foldItems (fun acc => return (← item) :: acc) (← get) true []
  endList
  return reversed.reverse

/-- Folds over the members of an object whose bracket is open, up to the closing bracket, which
stays. The step begins at the quote of the member's name. The text itself is the fuel. -/
def foldMembers {α : Type} (step : α → Reader α) : List Char → Bool → α → Reader α
  | [], _, _ => fail .endOfObject
  | _ :: fuel, isFirst, acc => do
    if ← hasMember isFirst then
      foldMembers step fuel false (← step acc)
    else return acc

/-- All members of an object whose bracket is open, and its end. -/
def members {α : Type} (step : α → Reader α) (start : α) : Reader α := do
  let acc ← foldMembers step (← get) true start
  skip
  return acc

def run {α : Type} (reader : Reader α) (text : String) : Except Error α := do
  let action : Reader α := do
    let value ← reader
    endText
    return value
  return (← StateT.run action text.toList).1

end Reader

end CertaintyFactor.Json
