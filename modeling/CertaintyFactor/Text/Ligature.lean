import CertaintyFactor.Text.Columns.Char

/-!
# Ligatures

Letters of some scripts that are drawn as one with the letters after them, and then take fewer
columns. A text is read from its end, so a ligature is told by its last part, which waits for the
parts before it.
-/

set_option autoImplicit false

namespace CertaintyFactor.Text

/-- The end of a possible ligature. -/
inductive Ligature where
  /-- Arabic alef, which a lam may stand before. -/
  | alef
  /-- Hebrew lamed, which a joined alef may stand before. -/
  | lamed
  /-- Khmer letters that may be written below the letter before them. -/
  | subscript
  /-- Buginese ya, which a joined vowel sign may stand before. -/
  | ya
  /-- The vowel sign and ya, which the letter a may stand before. -/
  | vowelYa
  /-- Tifinagh consonants, which another joined one may stand before. -/
  | consonant
  /-- A consonant with the joiner of that script before it. -/
  | joinedConsonant
  /-- Lisu tone letters of the second kind, which one of the first kind may stand before. -/
  | tone
  /-- Old Turkic orkhon i, which a joined letter may stand before. -/
  | orkhonI
  /-- Kirat Rai vowel sign e, which may be the end of longer signs. -/
  | signE
  /-- Kirat Rai vowel sign ai, likewise. -/
  | signAi
deriving DecidableEq, Repr

namespace Ligature

def lies (first last : Nat) (c : Char) : Bool :=
  first ≤ c.toNat && c.toNat ≤ last

def isAlef (c : Char) : Bool :=
  [0x622, 0x623, 0x625, 0x627, 0x675, 0x773, 0x774].contains c.toNat || lies 0x671 0x673 c ||
    lies 0x870 0x882 c

def isLam (c : Char) : Bool :=
  [0x644, 0x76a, 0x8a6, 0x8c7].contains c.toNat || lies 0x6b5 0x6b8 c

def isConsonant (c : Char) : Bool :=
  lies 0x2d31 0x2d65 c || c.toNat = 0x2d6f

def subscriptRanges : Ranges :=
  [(0x1780, 0x1782), (0x1784, 0x1787), (0x1789, 0x178c), (0x178e, 0x1793), (0x1795, 0x1798),
   (0x179b, 0x179d), (0x17a0, 0x17a0), (0x17a2, 0x17a2), (0x17a7, 0x17a7), (0x17ab, 0x17ac),
   (0x17af, 0x17af)]

/-- The ligature a character may be the end of. -/
def ofChar? (c : Char) : Option Ligature :=
  if c.toNat = 0x5dc then some lamed
  else if isAlef c then some alef
  else if subscriptRanges.has c then some subscript
  else if c.toNat = 0x1a10 then some ya
  else if isConsonant c then some consonant
  else if lies 0xa4fc 0xa4fd c then some tone
  else if c.toNat = 0x10c03 then some orkhonI
  else if c.toNat = 0x16d67 then some signE
  else if c.toNat = 0x16d68 then some signAi
  else none

/-- Whether a joiner and marks that may be ignored can stand inside a ligature. -/
def isTransparent : Ligature → Bool
  | alef => false
  | _ => true

/-- What a character before the end of a ligature adds to the width, and the end of the ligature
that may go on before it; nothing if the two are no ligature. A joiner may stand between them. -/
def extend? (c : Char) (isJoined : Bool) : Ligature → Option (Int × Option Ligature)
  | alef =>
    if isLam c then some (0, none) else if isJoinedOver c then some (0, some alef) else none
  | lamed => if isJoined && c.toNat = 0x5d0 then some (0, none) else none
  | subscript => if c.toNat = 0x17d2 then some (-1, none) else none
  | ya => if isJoined && c.toNat = 0x1a17 then some (0, some vowelYa) else none
  | vowelYa => if c.toNat = 0x1a15 then some (0, none) else none
  | consonant =>
    if c.toNat = 0x2d7f then some (1, some joinedConsonant)
    else if isJoined && isConsonant c then some (0, none)
    else none
  | joinedConsonant => if isConsonant c then some (-1, none) else none
  | tone => if lies 0xa4f8 0xa4fb c then some (0, none) else none
  | orkhonI => if isJoined && c.toNat = 0x10c32 then some (0, none) else none
  | signE =>
    if c.toNat = 0x16d63 || c.toNat = 0x16d69 then some (0, none)
    else if c.toNat = 0x16d67 then some (0, some signAi)
    else if c.toNat = 0x16d68 then some (1, some signE)
    else none
  | signAi => if c.toNat = 0x16d63 then some (0, none) else none

end Ligature

end CertaintyFactor.Text
