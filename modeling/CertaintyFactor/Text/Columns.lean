import CertaintyFactor.Text.Emoji
import CertaintyFactor.Text.Ligature

/-!
# Width in columns

How many columns of a terminal a text takes. Mostly that is the sum over its characters, but a
sequence that makes up one emoji takes two columns, a selector after a character can make it narrow
or wide, and ligatures take as much as one letter. The text is read from its end, because what a
character adds depends on what follows it.
-/

set_option autoImplicit false

namespace CertaintyFactor.Text

/-- What stands before the joiner of an emoji sequence, as far as it has been read. -/
inductive JoinedPart where
  | nothing
  | keycap
  /-- One half of a flag. -/
  | half
  | evenHalves
  | oddHalves
  /-- The end of a flag's tags with some letters before it. -/
  | letters (count : Nat)
  /-- As many tag digits before such an end. -/
  | digits (count : Nat)
deriving DecidableEq, Repr

/-- What follows a character in a text, as far as the two can be one. -/
inductive Follower where
  | other
  | emoji
  | modifier
  /-- One half of a flag. -/
  | half
  /-- Several halves of flags. -/
  | halves
  /-- A joiner with an emoji after it. -/
  | joined (part : JoinedPart)
  /-- The end of a ligature, and whether there is a joiner before it. -/
  | ligature (last : Ligature) (isJoined : Bool)
deriving DecidableEq, Repr

/-- What follows a character, and the selectors between the two. -/
structure Ahead where
  follower : Follower
  textSelector : Bool := false
  pictureSelector : Bool := false
deriving DecidableEq, Repr

namespace Ahead

/-- What a character leaves ahead of the one before it, and what it adds to the width by itself. -/
def alone (c : Char) : Int × Ahead :=
  let follower :=
    match Ligature.ofChar? c with
    | some last => .ligature last false
    | none =>
      if isRegional c then .half
      else if isModifier c then .modifier
      else if isEmoji c then .emoji
      else .other
  (charColumns c,
    { follower, textSelector := c.toNat = 0xfe0e, pictureSelector := c.toNat = 0xfe0f })

def withPictureSelector (ahead : Ahead) : Ahead :=
  match ahead.follower with
  | .ligature .. | .joined .nothing | .joined .keycap => { ahead with pictureSelector := true }
  | _ => { follower := .other, pictureSelector := true }

def withTextSelector (ahead : Ahead) : Ahead :=
  match ahead.follower with
  | .ligature .. => { ahead with textSelector := true }
  | _ => { follower := .other, textSelector := true }

/-- What follows once a character has not taken the selector for pictures. -/
def withoutPictureSelector (ahead : Ahead) : Ahead :=
  match ahead.pictureSelector, ahead.follower with
  | false, _ => ahead
  | true, .ligature .. => { ahead with pictureSelector := false }
  | true, _ => { follower := .other }

end Ahead

namespace JoinedPart

def isTagLetter (c : Char) : Bool :=
  0xe0061 ≤ c.toNat && c.toNat ≤ 0xe007a

def isTagDigit (c : Char) : Bool :=
  0xe0030 ≤ c.toNat && c.toNat ≤ 0xe0039

/-- What a character before a joined emoji adds to the width, and what it leaves ahead. -/
def extend? (c : Char) : JoinedPart → Option (Int × Follower)
  | nothing =>
    if c.toNat = 0x20e3 then some (0, .joined keycap)
    else if isRegional c then some (1, .joined half)
    else if isModifier c then some (0, .modifier)
    else if c.toNat = 0xe007f then some (0, .joined (letters 0))
    else if isEmoji c then some (0, .emoji)
    else none
  | keycap => none
  | half | oddHalves => if isRegional c then some (-1, .joined evenHalves) else none
  | evenHalves =>
    if isRegional c then some (3, .joined oddHalves)
    else none
  | letters n =>
    if isTagLetter c && n < 6 then some (0, .joined (letters (n + 1)))
    else if isTagDigit c && n < 5 then some (0, .joined (digits 1))
    else if c.toNat = 0x1f3f4 && 3 ≤ n then some (0, .emoji)
    else none
  | digits n =>
    if isTagDigit c && n < 3 then some (0, .joined (digits (n + 1)))
    else if c.toNat = 0x1f3f4 && n = 3 then some (0, .emoji)
    else none

/-- Whether a joiner can stand before an emoji sequence that ends so. -/
def isComplete : JoinedPart → Bool
  | evenHalves | oddHalves => true
  | _ => false

end JoinedPart

namespace Follower

/-- Whether what follows is an emoji that a joiner can tie to the one before it. -/
def isJoinable : Follower → Bool
  | emoji | modifier | halves => true
  | joined part => part.isComplete
  | _ => false

/-- What a character adds to the width in front of what follows, and what it leaves ahead; nothing
if the two are not one. -/
def extend? (c : Char) (follower : Follower) : Option (Int × Follower) :=
  if c.toNat = 0x200d && follower.isJoinable then some (0, joined .nothing)
  else
    match follower with
    | other | emoji => none
    | modifier => if isModifierBase c then some (0, emoji) else none
    | half | halves => if isRegional c then some (1, halves) else none
    | joined part => part.extend? c
    | ligature last isJoined =>
      if last.isTransparent && c.toNat = 0x200d then some (0, ligature last true)
      else if last.isTransparent && isIgnorableMark c then some (0, follower)
      else
        (last.extend? c isJoined).map fun (width, next) =>
          (width, (next.map (ligature · isJoined)).getD other)

end Follower

/-- What a character adds to the width of a text, given what follows, and what it leaves ahead. -/
def placed (c : Char) (ahead : Ahead) : Int × Ahead :=
  if ahead.pictureSelector && canBePicture c then
    let isJoined := match ahead.follower with
      | .joined _ => true
      | _ => false
    (if isJoined then 0 else 2, { follower := .emoji })
  else
    let ahead := ahead.withoutPictureSelector
    if c.toNat ≤ 0xa0 then (1, { follower := .other })
    else if ahead = { follower := .other } then Ahead.alone c
    else if c.toNat = 0xfe0f then (0, ahead.withPictureSelector)
    else if c.toNat = 0xfe0e then (0, ahead.withTextSelector)
    else if ahead.textSelector && canBeText c then (1, { follower := .other })
    else
      match ahead.follower.extend? c with
      | some (width, follower) => (width, { follower })
      | none => Ahead.alone c

/-- The number of columns a text takes. -/
def columns (text : String) : Nat :=
  let (width, _) := text.toList.foldr
    (fun c (width, ahead) =>
      let (more, ahead) := placed c ahead
      (width + more, ahead))
    ((0 : Int), ({ follower := .other } : Ahead))
  width.toNat

end CertaintyFactor.Text
