import CertaintyFactor.Disk.Basic
import CertaintyFactor.Disk.Path
import CertaintyFactor.Session.Record
import CertaintyFactor.Text.Blank
import CertaintyFactor.Text.Line

/-!
# Session stores

A store is a text file with one record on each line. Records are only ever added at its end. Lines
that are no records, such as one that a failed write cut short, are passed over when the store is
read, and the next record after them begins on a line of its own.
-/

set_option autoImplicit false

namespace CertaintyFactor.Session

inductive Error where
  | disk (path : String) (reason : DiskError)
  /-- A line of a store that is no record. -/
  | undecodable (path : String) (line : Nat) (reason : Json.Error)
  | unavailable (detail : String)
deriving DecidableEq, Repr

def Error.message : Error → String
  | disk path reason => s!"session store {path}: {reason.message}"
  | undecodable path line reason =>
    s!"failed to decode session store {path} line {line}: {reason.message}"
  | unavailable detail => s!"session store unavailable: {detail}"

/-- Whether a line holds anything but white space. -/
def isWritten (line : List Char) : Bool :=
  !line.all Text.isBlank

/-- What a store's text holds. -/
structure Contents where
  records : List Record
  /-- Whether the next record can begin where the text ends. -/
  terminated : Bool
deriving DecidableEq

namespace Contents

/-- The records of a text, line by line; lines that are none are passed over. -/
def recordsOf (text : String) : List Record :=
  ((Text.lines text.toList).filter isWritten).filterMap fun line =>
    (Record.parse (.ofList line)).toOption

def ofText (text : String) : Contents :=
  ⟨recordsOf text, Text.isTerminated text.toList⟩

/-- The lines of a text that are no records, with the reason for each. -/
def faults (path text : String) : List Error :=
  (Text.lines text.toList).zipIdx.filterMap fun (line, i) =>
    if isWritten line then
      match Record.parse (.ofList line) with
      | .ok _ => none
      | .error e => some (.undecodable path (i + 1) e)
    else none

end Contents

structure Store where
  path : String
  /-- The number of records in the file. -/
  count : Nat := 0
  /-- Whether the file may end within a line. -/
  needsSeparator : Bool := false
deriving DecidableEq, Repr

namespace Store

def ofContents (path : String) (contents : Contents) : Store :=
  ⟨path, contents.records.length, !contents.terminated⟩

/-- What is written for a record: its line, on a new line if the file may end within one. -/
def written (s : Store) (r : Record) : String :=
  (if s.needsSeparator then "\n" else "") ++ r.line ++ "\n"

/-- The store after a record was written, or after writing failed on the way. -/
def afterWrite (s : Store) (succeeded : Bool) : Store :=
  if succeeded then { s with count := s.count + 1, needsSeparator := false }
  else { s with needsSeparator := true }

section

variable {m : Type → Type} [Monad m] [Disk m]

/-- The contents of the file at a path, none when there is no file. -/
def contents? (path : String) : m (Except DiskError (Option Contents)) := do
  match ← Disk.isThere path with
  | .error e => return .error e
  | .ok false => return .ok none
  | .ok true => return (← Disk.readText path).map fun text => some (.ofText text)

/-- Makes the directory a path lies in. -/
def prepare (path : String) : m (Except DiskError Unit) := do
  match Path.parent? path with
  | some parent => Disk.makeDirectories parent
  | none => return .ok ()

/-- Opens the store at a path, counting its records, or makes ready for a file that is not there. -/
def openAt (path : String) : m (Except Error Store) := do
  match ← contents? path with
  | .error e => return .error (.disk path e)
  | .ok (some contents) => return .ok (ofContents path contents)
  | .ok none =>
    return match ← prepare path with
    | .error e => .error (.disk path e)
    | .ok () => .ok { path := path }

/-- All records of the file; a file that is not there has none. -/
def readAll (s : Store) : m (Except Error (List Record)) := do
  match ← contents? s.path with
  | .error e => return .error (.disk s.path e)
  | .ok contents => return .ok ((contents.map (·.records)).getD [])

def add (s : Store) (r : Record) : m (Except Error Record × Store) := do
  match ← Disk.append s.path (s.written r) with
  | .ok () => return (.ok r, s.afterWrite true)
  | .error e => return (.error (.disk s.path e), s.afterWrite false)

end

end Store

end CertaintyFactor.Session
