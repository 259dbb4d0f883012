import CertaintyFactor.Toml.Number
import CertaintyFactor.Toml.Table

/-!
# Reading TOML

The grammar of TOML 1.0. A document is a row of headers, each with the pairs below it; the first
pairs need no header.
-/

set_option autoImplicit false

namespace CertaintyFactor.Toml

/-- Takes characters off the front of a text. -/
abbrev Reader := StateT (List Char) (Except Error)

/-- The number of arrays and inline tables that may be open at once, and of parts a key may have. -/
abbrev nestingLimit : Nat := 79

namespace Reader

def first? : Reader (Option Char) := do
  return (← get).head?

def skip : Reader Unit :=
  modify List.tail

/-- Fails over the next character. -/
def unexpected {α : Type} : Reader α := do
  match ← first? with
  | some c => throw (.unexpected c)
  | none => throw .unexpectedEnd

def mark (c : Char) : Reader Unit := do
  if (← first?) = some c then skip else unexpected

/-- The given characters, if they come next. -/
def comesNext (word : List Char) : Reader Bool := do
  match Number.after? word (← get) with
  | some rest =>
    set rest
    return true
  | none => return false

def isSpace (c : Char) : Bool :=
  c = ' ' || c = '\t'

def spaces : Reader Unit :=
  modify (·.dropWhile isSpace)

/-- Whether a character may stand in a comment or a literal string. -/
def isPlain (c : Char) : Bool :=
  c = '\t' || (0x20 ≤ c.toNat && c.toNat ≠ 0x7f)

def comment : Reader Unit := do
  if (← first?) = some '#' then modify (·.dropWhile isPlain)

/-- The end of a line, if it comes next. -/
def newline : Reader Bool := do
  match ← get with
  | '\n' :: rest | '\r' :: '\n' :: rest =>
    set rest
    return true
  | _ => return false

/-- The rest of a line that holds nothing more. -/
def endLine : Reader Unit := do
  spaces
  comment
  if ← newline then pure ()
  else if (← get).isEmpty then pure ()
  else unexpected

/-- Spaces, comments and ends of lines. As in all loops below, the text itself is the fuel: each
round drops one character of it and reads one at least. -/
def gaps : List Char → Reader Unit
  | [] => pure ()
  | _ :: fuel => do
    spaces
    comment
    if ← newline then gaps fuel

/-- Spaces, comments and ends of lines, as many as there are. -/
def gap : Reader Unit := do
  gaps (← get)

/-! ## Strings -/

/-- The character with the code point that hexadecimal digits write. -/
def numbered (row : List Char) : Reader Char := do
  let n := row.foldl (fun n c => 16 * n + Number.digitValue c) 0
  if row.all (Number.isDigitIn 16) && (n < 0xd800 || (0xe000 ≤ n && n < 0x110000)) then
    return Char.ofNat n
  else throw .invalidString

/-- The character an escape stands for, after its backslash. -/
def escape : Reader Char := do
  match ← get with
  | 'b' :: rest => set rest; return Char.ofNat 8
  | 't' :: rest => set rest; return '\t'
  | 'n' :: rest => set rest; return '\n'
  | 'f' :: rest => set rest; return Char.ofNat 12
  | 'r' :: rest => set rest; return '\r'
  | '"' :: rest => set rest; return '"'
  | '\\' :: rest => set rest; return '\\'
  | 'u' :: a :: b :: c :: d :: rest => set rest; numbered [a, b, c, d]
  | 'U' :: a :: b :: c :: d :: e :: f :: g :: h :: rest =>
    set rest
    numbered [a, b, c, d, e, f, g, h]
  | _ => throw .invalidString

/-- The rest of a basic string on one line. -/
def basicChars : List Char → List Char → Reader String
  | [], _ => throw .unexpectedEnd
  | _ :: fuel, acc => do
    match ← get with
    | '"' :: rest =>
      set rest
      return .ofList acc.reverse
    | '\\' :: rest =>
      set rest
      basicChars fuel ((← escape) :: acc)
    | c :: rest =>
      if isPlain c then
        set rest
        basicChars fuel (c :: acc)
      else throw .invalidString
    | [] => throw .unexpectedEnd

/-- The rest of a literal string on one line. -/
def literalChars : Reader String := do
  let (inner, rest) := (← get).span fun c => isPlain c && c ≠ '\''
  set rest
  mark '\''
  return .ofList inner

/-- The end of a string over several lines, if it comes next: three quotes, which may follow up to
two more that belong to the string. -/
def closing (quote : Char) (text : List Char) : Option (List Char × List Char) :=
  let row := text.takeWhile (· = quote)
  if row.length < 3 then none
  else
    let own := min (row.length - 3) 2
    some (List.replicate own quote, text.drop (own + 3))

/-- A backslash that ends a line takes all blanks up to the next text with it. -/
def afterLineEnd? (text : List Char) : Option (List Char) :=
  match text.dropWhile isSpace with
  | '\n' :: rest | '\r' :: '\n' :: rest => some rest
  | _ => none

/-- Drops spaces and ends of lines. -/
def dropBlankLines : List Char → List Char
  | '\r' :: '\n' :: rest => dropBlankLines rest
  | c :: rest => if isSpace c || c = '\n' then dropBlankLines rest else c :: rest
  | [] => []

/-- The rest of a string over several lines, which has escapes when its quote is the double one. -/
def longChars (quote : Char) : List Char → List Char → Reader String
  | [], _ => throw .unexpectedEnd
  | _ :: fuel, acc => do
    let text ← get
    match closing quote text with
    | some (own, rest) =>
      set rest
      return .ofList (acc.reverse ++ own)
    | none =>
      match text with
      | '\n' :: rest | '\r' :: '\n' :: rest =>
        set rest
        longChars quote fuel ('\n' :: acc)
      | c :: rest =>
        set rest
        if c = '\\' && quote = '"' then
          match afterLineEnd? rest with
          | some rest =>
            set (dropBlankLines rest)
            longChars quote fuel acc
          | none => longChars quote fuel ((← escape) :: acc)
        else if isPlain c then longChars quote fuel (c :: acc)
        else throw .invalidString
      | [] => throw .unexpectedEnd

/-- A string on one line, if a quote comes next. -/
def shortString? : Reader (Option String) := do
  match ← get with
  | '"' :: rest =>
    set rest
    return some (← basicChars rest [])
  | '\'' :: rest =>
    set rest
    return some (← literalChars)
  | _ => return none

/-- A string over several lines. A line end just after the opening quotes is dropped. -/
def longString (quote : Char) : Reader String := do
  discard newline
  longChars quote (← get) []

/-- A string, if a quote comes next. -/
def string? : Reader (Option String) := do
  if ← comesNext ['"', '"', '"'] then return some (← longString '"')
  else if ← comesNext ['\'', '\'', '\''] then return some (← longString '\'')
  else shortString?

/-! ## Keys and values -/

/-- Whether a character may stand in a key without quotes. -/
def isBare (c : Char) : Bool :=
  c.isAlphanum || c = '_' || c = '-'

def keyPart : Reader String := do
  match ← shortString? with
  | some s => return s
  | none =>
    let (row, rest) := (← get).span isBare
    set rest
    if row.isEmpty then unexpected else return .ofList row

/-- A dotted key as its path and its last part. -/
def key : Nat → Reader (List String × String)
  | 0 => throw .tooDeep
  | parts + 1 => do
    spaces
    let part ← keyPart
    spaces
    if (← first?) = some '.' then
      skip
      let (path, last) ← key parts
      return (part :: path, last)
    else return ([], part)

/-- The values of an array whose bracket is open, and its end. -/
def arrayItems (value : Reader Toml) : List Char → List Toml → Reader Toml
  | [], _ => throw .unexpectedEnd
  | _ :: fuel, acc => do
    gap
    if (← first?) = some ']' then
      skip
      return .array acc.reverse
    else
      let item ← value
      gap
      if (← first?) = some ',' then
        skip
        arrayItems value fuel (item :: acc)
      else
        mark ']'
        return .array (item :: acc).reverse

def pair (value : Reader Toml) : Reader (List String × String × Toml) := do
  let (path, last) ← key nestingLimit
  mark '='
  spaces
  return (path, last, ← value)

/-- The pairs of an inline table whose brace is open, at least one, and its end. -/
def inlinePairs (value : Reader Toml) :
    List Char → List (List String × String × Toml) → Reader (List (List String × String × Toml))
  | [], _ => throw .unexpectedEnd
  | _ :: fuel, acc => do
    let next ← pair value
    spaces
    if (← first?) = some ',' then
      skip
      inlinePairs value fuel (next :: acc)
    else
      mark '\x7d'
      return (next :: acc).reverse

/-- An inline table whose brace is open. -/
def inlineTable (value : Reader Toml) : Reader Toml := do
  spaces
  if (← first?) = some '\x7d' then
    skip
    return .table []
  else
    let pairs ← inlinePairs value (← get) []
    match Members.addValues [] pairs with
    | .ok members => return .table (membersToToml members)
    | .error e => throw e

def scalar : Reader Toml := do
  match ← string? with
  | some s => return .string s
  | none =>
    if ← comesNext "true".toList then return .bool true
    else if ← comesNext "false".toList then return .bool false
    else
      let text ← get
      let isNumber := text.head?.any fun c => c.isDigit || c = '+' || c = '-'
      match (if isNumber then Number.value? text else Number.special? text) with
      | some (value, rest) =>
        set rest
        return value
      | none => if isNumber then throw .invalidNumber else unexpected

/-- A value with at most the given number of brackets open in it. -/
def value : Nat → Reader Toml
  | 0 => do
    match ← first? with
    | some '[' | some '\x7b' => throw .tooDeep
    | _ => scalar
  | depth + 1 => do
    match ← first? with
    | some '[' =>
      skip
      arrayItems (value depth) (← get) []
    | some '\x7b' =>
      skip
      inlineTable (value depth)
    | _ => scalar

/-! ## Documents -/

/-- The pairs up to the next header. -/
def pairs : List Char → List (List String × String × Toml) →
    Reader (List (List String × String × Toml))
  | [], acc => return acc.reverse
  | _ :: fuel, acc => do
    gap
    match ← first? with
    | none | some '[' => return acc.reverse
    | some _ =>
      let next ← pair (value nestingLimit)
      endLine
      pairs fuel (next :: acc)

/-- A header, as whether it opens an item of an array of tables, and its key. -/
def header : Reader (Bool × List String × String) := do
  mark '['
  let isItem := (← first?) = some '['
  if isItem then skip
  let (path, last) ← key nestingLimit
  mark ']'
  if isItem then mark ']'
  endLine
  return (isItem, path, last)

/-- The tables from the next header on, added to those before. -/
def tables : List Char → Members → Reader Members
  | [], members => return members
  | _ :: fuel, members => do
    if (← get).isEmpty then return members
    else
      let (isItem, path, last) ← header
      let content ← pairs (← get) []
      match (if isItem then members.addItem path last content
        else members.addTable path last content) with
      | .ok members => tables fuel members
      | .error e => throw e

def document : Reader Toml := do
  discard (comesNext [Char.ofNat 0xfeff])
  let content ← pairs (← get) []
  match Members.addValues [] content with
  | .ok members => return .table (membersToToml (← tables (← get) members))
  | .error e => throw e

end Reader

def parse (text : String) : Except Error Toml := do
  return (← StateT.run Reader.document text.toList).1

end CertaintyFactor.Toml
