/-!
# Paths

A path is a text whose parts are divided by slashes. Empty parts and single dots say nothing. A disk
takes only paths and names up to a certain size.
-/

set_option autoImplicit false

namespace CertaintyFactor.Path

abbrev maxNameSize : Nat := 255

abbrev maxSize : Nat := 4095

/-- The names between the slashes of a path. -/
def names (path : String) : List String :=
  (path.toList.splitOn '/').map String.ofList

/-- Whether a path begins at the top and not at the working directory. -/
def isAbsolute (path : String) : Bool :=
  path.toList.head? = some '/'

/-- Whether a name leads nowhere. -/
def isIdle (name : String) : Bool :=
  name = "" || name = "."

/-- The parts of a path that say something. -/
def parts (path : String) : List String :=
  (names path).filter (!isIdle ·)

/-- A path with only the parts that say something. -/
def normal (path : String) : String :=
  (if isAbsolute path then "/" else "") ++ "/".intercalate (parts path)

/-- The name a path ends in; two dots are no name. -/
def fileName? (path : String) : Option String :=
  match (parts path).getLast? with
  | some ".." => none
  | last => last

/-- What stands after the last dot of a name, unless that dot is its first character. -/
def nameExtension? (name : String) : Option String :=
  let (reversed, rest) := name.toList.reverse.span (· ≠ '.')
  match rest with
  | _ :: _ :: _ => some (.ofList reversed.reverse)
  | _ => none

def extension? (path : String) : Option String :=
  (fileName? path).bind nameExtension?

/-- The path without its last part, none when there is nothing before it. -/
def parent? (path : String) : Option String :=
  match (names path).reverse.dropWhile isIdle with
  | [] => none
  | _ :: before =>
    match before.dropWhile isIdle with
    | [] => none
    | before => some ("/".intercalate before.reverse)

end CertaintyFactor.Path
