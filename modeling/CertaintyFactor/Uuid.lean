import CertaintyFactor.Decimal.Basic

/-!
# Unique identifiers

A UUID is a number of 128 bits. It is read in its plain, hyphenated, braced and URN forms, in either
case, and written hyphenated in lower case. What is wrong with a text is told by its length if it is
longer than any form, else by the first character that has no place in it, and else by its groups.
-/

set_option autoImplicit false

namespace CertaintyFactor

structure Uuid where
  value : Nat
  value_lt : value < Nat.pow 2 128 := by decide
deriving DecidableEq, Repr

namespace Uuid

inductive Error where
  /-- A character that has no place there, at a position counted in bytes from the first one inside
  the braces or after the URN's beginning. -/
  | character (found : Char) (position : Nat)
  | length (found : Nat)
  | groupCount (found : Nat)
  | groupLength (group expected found : Nat)
deriving DecidableEq, Repr

def Error.message : Error → String
  | character found position => s!"invalid character: found `{found}` at {position}"
  | length found => s!"invalid length: found {found}"
  | groupCount found => s!"invalid group count: expected 5, found {found}"
  | groupLength group expected found =>
    s!"invalid group length in group {group}: expected {expected}, found {found}"

/-- The numbers of digits in the groups of the hyphenated form. -/
def groupLengths : List Nat := [8, 4, 4, 4, 12]

def isHexDigit (c : Char) : Bool :=
  c.isDigit || ('a' ≤ c && c ≤ 'f') || ('A' ≤ c && c ≤ 'F')

def hexValue (c : Char) : Nat :=
  if c.isDigit then c.toNat - '0'.toNat else c.toLower.toNat - 'a'.toNat + 10

/-- The identifier whose digits are given. -/
def ofDigits (digits : List Char) : Uuid :=
  ⟨digits.foldl (fun n c => 16 * n + hexValue c) 0 % Nat.pow 2 128, Nat.mod_lt _ (by decide)⟩

/-- How the URN of an identifier begins, in any case. -/
def urnStart : List Char := "urn:uuid:".toList

abbrev hyphenatedSize : Nat := 36

/-- The number of bytes of the longest form, the URN. -/
abbrev longestSize : Nat := 45

/-- The inner part of a text, and whether it stands in no braces and is no URN. -/
def unwrap (text : List Char) : List Char × Bool :=
  if text.head? = some '\x7b' && text.getLast? = some '\x7d' && 2 ≤ text.length then
    (text.tail.dropLast, false)
  else if urnStart.isPrefixOf (text.map Char.toLower) then (text.drop urnStart.length, false)
  else (text, true)

/-- The first character that is neither a hyphen nor a digit, with its position in bytes. -/
def fault? (position : Nat) : List Char → Option (Char × Nat)
  | [] => none
  | c :: rest =>
    if c = '-' || isHexDigit c then fault? (position + c.utf8Size) rest else some (c, position)

/-- Why the inner part of a text, of which only the form is wrong, is no identifier. A plain text
without hyphens has the wrong length, unless it is as long as the hyphenated form. -/
def formError (plain : Bool) (size : Nat) (groups : List (List Char)) : Error :=
  if groups.length = 1 && plain && size ≠ hyphenatedSize then .length size
  else if groups.length ≠ groupLengths.length then .groupCount groups.length
  else
    let lengths := (groups.map List.length).zip groupLengths
    match lengths.zipIdx.dropLast.find? fun ((found, expected), _) => found ≠ expected with
    | some ((found, expected), group) => .groupLength group expected found
    | none => .groupLength 4 12 (size - 24)

def parse (text : String) : Except Error Uuid :=
  let size := text.utf8ByteSize
  if longestSize < size then .error (.length size)
  else
    let (inner, plain) := unwrap text.toList
    match fault? 0 inner with
    | some (found, position) => .error (.character found position)
    | none =>
      let groups := inner.splitOn '-'
      if groups.map List.length = groupLengths ||
          (plain && groups.length = 1 && inner.length = 32) then
        .ok (ofDigits groups.flatten)
      else .error (formError plain size groups)

/-- The 32 digits of an identifier. -/
def digits (id : Uuid) : List Char :=
  let row := Nat.toDigits 16 id.value
  List.replicate (32 - row.length) '0' ++ row

/-- Digits in groups of the given lengths. -/
def grouped : List Nat → List Char → List (List Char)
  | [], _ => []
  | n :: lengths, row => row.take n :: grouped lengths (row.drop n)

/-- The hyphenated form. -/
def text (id : Uuid) : String :=
  .ofList (List.intercalate ['-'] (grouped groupLengths id.digits))

/-- The text in hyphenated form, or why it is no identifier. -/
def normalize (text : String) : Except String String :=
  match parse text with
  | .ok id => .ok id.text
  | .error e => .error ("UUID parsing failed: " ++ e.message)

/-- The random identifier made of the bits of a number: the version is 4, the two bits of the
variant are fixed, and all others are taken from the number. -/
def ofRandom (n : Nat) : Uuid :=
  let high := n / 0x100000000000000000000 % 0x1000000000000
  let middle := n / 0x10000000000000000 % 0x1000
  let low := n % 0x4000000000000000
  ⟨high * 0x100000000000000000000 + 0x40000000000000000000 + middle * 0x10000000000000000 +
    0x8000000000000000 + low, by
      show _ < 0x100000000000000000000000000000000
      omega⟩

end Uuid

end CertaintyFactor
