import CertaintyFactor.Text.Unprintable

/-!
# Quoted text

A text between double quotes, as messages show it: quotes and backslashes are escaped, the common
controls have their letter, and other unprintable characters are spelled out by number.
-/

set_option autoImplicit false

namespace CertaintyFactor.Text

/-- A character as it stands inside quotes. -/
def quotedChar (c : Char) : List Char :=
  if c = '"' || c = '\\' then ['\\', c]
  else if c = '\n' then ['\\', 'n']
  else if c = '\r' then ['\\', 'r']
  else if c = '\t' then ['\\', 't']
  else if c.toNat = 0 then ['\\', '0']
  else if isUnprintable c then
    '\\' :: 'u' :: '\x7b' :: Nat.toDigits 16 c.toNat ++ ['\x7d']
  else [c]

/-- A text between double quotes. -/
def quoted (text : String) : String :=
  .ofList ('"' :: text.toList.flatMap quotedChar ++ ['"'])

end CertaintyFactor.Text
