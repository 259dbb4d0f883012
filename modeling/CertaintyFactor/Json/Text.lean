import CertaintyFactor.Json.Reader

/-!
# Reading strings

The inside of a string, after its opening quote. Escaped UTF-16 surrogates have to come in pairs.
`skipped` only checks that a string is well formed, and lets any four hexadecimal digits pass.
-/

set_option autoImplicit false

namespace CertaintyFactor.Json.Text

open Reader

def hexValue? (c : Char) : Option Nat :=
  if c.isDigit then some (c.toNat - '0'.toNat)
  else if 'a' ≤ c && c ≤ 'f' then some (c.toNat - 'a'.toNat + 10)
  else if 'A' ≤ c && c ≤ 'F' then some (c.toNat - 'A'.toNat + 10)
  else none

/-- Four hexadecimal digits. They are four bytes of text, whatever characters those are, so that a
text that ends earlier is an unended string and not a faulty escape. -/
def hexEscape : Reader Nat := do
  let text ← get
  if (text.take 4).foldl (fun n c => n + c.utf8Size) 0 < 4 then fail .endOfString
  else
    match (text.take 4).mapM hexValue? with
    | some values =>
      set (text.drop 4)
      return values.foldl (fun n v => 16 * n + v) 0
    | none => fail .invalidEscape

def nextChar : Reader Char := do
  match ← first? with
  | some c =>
    skip
    return c
  | none => fail .endOfString

def isLeading (unit : Nat) : Bool :=
  0xd800 ≤ unit && unit ≤ 0xdbff

def isTrailing (unit : Nat) : Bool :=
  0xdc00 ≤ unit && unit ≤ 0xdfff

/-- The given character, without which an escape of two parts is cut short. -/
def escapeGoesOn (c : Char) : Reader Unit := do
  if (← nextChar) = c then pure () else fail .endOfEscape

/-- The character a numeric escape stands for, after its `u`. -/
def numericEscape : Reader Char := do
  let unit ← hexEscape
  if isTrailing unit then fail .loneSurrogate
  else if isLeading unit then
    escapeGoesOn '\\'
    escapeGoesOn 'u'
    let second ← hexEscape
    if isTrailing second then
      return Char.ofNat ((unit - 0xd800) * 0x400 + (second - 0xdc00) + 0x10000)
    else fail .loneSurrogate
  else return Char.ofNat unit

/-- The character that a letter after a backslash stands for, other than by number. -/
def letterEscape? (c : Char) : Option Char :=
  match c with
  | '"' => some '"'
  | '\\' => some '\\'
  | '/' => some '/'
  | 'b' => some (Char.ofNat 8)
  | 'f' => some (Char.ofNat 12)
  | 'n' => some '\n'
  | 'r' => some '\r'
  | 't' => some '\t'
  | _ => none

def escape : Reader Char := do
  let c ← nextChar
  if c = 'u' then numericEscape
  else
    match letterEscape? c with
    | some d => return d
    | none => fail .invalidEscape

/-- The rest of a string with the characters before it in reverse order. The text itself is the
fuel: each round drops one character of it and reads one at least. -/
def charsFrom : List Char → List Char → Reader (List Char)
  | [], _ => fail .endOfString
  | _ :: fuel, acc => do
    let c ← nextChar
    if c = '"' then return acc.reverse
    else if c = '\\' then charsFrom fuel ((← escape) :: acc)
    else if c.toNat < 0x20 then fail .controlCharacter
    else charsFrom fuel (c :: acc)

/-- The string whose opening quote comes next. -/
def quoted : Reader String := do
  skip
  return .ofList (← charsFrom (← get) [])

def skipEscape : Reader Unit := do
  let c ← nextChar
  if c = 'u' then discard hexEscape
  else if (letterEscape? c).isSome then pure ()
  else fail .invalidEscape

/-- Passes over the rest of a string. The text itself is the fuel. -/
def skipChars : List Char → Reader Unit
  | [] => fail .endOfString
  | _ :: fuel => do
    let c ← nextChar
    if c = '"' then pure ()
    else if c = '\\' then
      skipEscape
      skipChars fuel
    else if c.toNat < 0x20 then fail .controlCharacter
    else skipChars fuel

/-- Passes over the string whose opening quote comes next. -/
def skipped : Reader Unit := do
  skip
  skipChars (← get)

end CertaintyFactor.Json.Text
