/-!
# Disks

What this library asks of a disk: reading a text file, appending to one, asking whether something is
there, and making directories. The logic is written over any monad that can do this, so that it runs
on a real disk as well as on the value of one, `FileTree`.
-/

set_option autoImplicit false

namespace CertaintyFactor

inductive DiskError where
  | notFound
  | notDirectory
  | isDirectory
  | alreadyExists
  /-- A name in the path, or the whole path, is longer than a disk allows. -/
  | nameTooLong
  /-- The path has the character in it that ends paths. -/
  | zeroInPath
  /-- The file is no text in UTF-8. -/
  | notText
  | other (message : String)
deriving DecidableEq, Repr

def DiskError.message : DiskError → String
  | notFound => "No such file or directory (os error 2)"
  | notDirectory => "Not a directory (os error 20)"
  | isDirectory => "Is a directory (os error 21)"
  | alreadyExists => "File exists (os error 17)"
  | nameTooLong => "File name too long (os error 36)"
  | zeroInPath => "file name contained an unexpected NUL byte"
  | notText => "stream did not contain valid UTF-8"
  | other message => message

class Disk (m : Type → Type) where
  readText (path : String) : m (Except DiskError String)
  isThere (path : String) : m (Except DiskError Bool)
  /-- Writes a text at the end of a file, which is made if it is not there. -/
  append (path text : String) : m (Except DiskError Unit)
  /-- Makes a directory and all that lead to it. -/
  makeDirectories (path : String) : m (Except DiskError Unit)

end CertaintyFactor
