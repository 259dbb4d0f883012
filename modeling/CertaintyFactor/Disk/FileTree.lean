import CertaintyFactor.Disk.Basic
import CertaintyFactor.Disk.Path

/-!
# File trees

A disk as a value: the files with their bytes and the directories, each at the list of names that
leads to it from the top. A path is followed name by name, from the top if it is absolute and from
the working directory if it is not, so every part but the last has to name a directory.
-/

set_option autoImplicit false

namespace CertaintyFactor

inductive FileTree.Node where
  | directory
  | file (bytes : ByteArray)

/-- The files and directories of a disk. The working directory is there whatever the entries are,
and so are all directories that lead to it. -/
structure FileTree where
  entries : List (List String × FileTree.Node) := []
  workingDirectory : List String := []

namespace FileTree

def node? (tree : FileTree) (place : List String) : Option Node :=
  if place <+: tree.workingDirectory then some .directory else tree.entries.lookup place

/-- The place that a path is followed from. -/
def start (tree : FileTree) (path : String) : List String :=
  if Path.isAbsolute path then [] else tree.workingDirectory

def checkDirectory (tree : FileTree) (place : List String) : Except DiskError Unit :=
  match tree.node? place with
  | some .directory => .ok ()
  | some (.file _) => .error .notDirectory
  | none => .error .notFound

/-- Fails for a name that no place can have. -/
def checkName (name : String) : Except DiskError Unit :=
  if Path.maxNameSize < name.utf8ByteSize then .error .nameTooLong else .ok ()

/-- Fails for a path that cannot be followed at all. -/
def checkPath (path : String) : Except DiskError Unit :=
  if path.toList.any (·.toNat = 0) then .error .zeroInPath
  else if path.isEmpty then .error .notFound
  else if Path.maxSize < path.utf8ByteSize then .error .nameTooLong
  else .ok ()

/-- The place reached from another one by the given names. -/
def follow (tree : FileTree) (place : List String) : List String → Except DiskError (List String)
  | [] => .ok place
  | name :: rest => do
    tree.checkDirectory place
    checkName name
    if Path.isIdle name then tree.follow place rest
    else if name = ".." then tree.follow place.dropLast rest
    else tree.follow (place ++ [name]) rest

/-- The place a path leads to, whether or not there is something. A path that ends in a slash leads
to a directory. -/
def resolve (tree : FileTree) (path : String) : Except DiskError (List String) := do
  checkPath path
  tree.follow (tree.start path) (Path.names path)

/-- The place of a file to be written, made if it is not there. A path that ends in a slash is none,
even where there is no directory yet. -/
def resolveFile (tree : FileTree) (path : String) : Except DiskError (List String) := do
  checkPath path
  match (Path.names path).reverse with
  | "" :: names =>
    let place ← tree.follow (tree.start path) (names.dropWhile (· = "")).tail.reverse
    tree.checkDirectory place
    throw .isDirectory
  | _ =>
    let place ← tree.follow (tree.start path) (Path.names path)
    if tree.node? place matches some .directory then throw .isDirectory
    return place

def put (tree : FileTree) (place : List String) (node : Node) : FileTree :=
  { tree with entries := (place, node) :: tree.entries.filter (·.1 ≠ place) }

def read (tree : FileTree) (path : String) : Except DiskError ByteArray := do
  match tree.node? (← tree.resolve path) with
  | some (.file bytes) => return bytes
  | some .directory => throw .isDirectory
  | none => throw .notFound

def readText (tree : FileTree) (path : String) : Except DiskError String := do
  match String.fromUTF8? (← tree.read path) with
  | some text => return text
  | none => throw .notText

def isThere (tree : FileTree) (path : String) : Except DiskError Bool :=
  match tree.resolve path with
  | .ok place => .ok (tree.node? place).isSome
  | .error .notFound => .ok false
  | .error e => .error e

def append (tree : FileTree) (path : String) (bytes : ByteArray) : Except DiskError FileTree := do
  let place ← tree.resolveFile path
  match tree.node? place with
  | some (.file old) => return tree.put place (.file (old ++ bytes))
  | _ => return tree.put place (.file bytes)

/-- The tree with a file that holds just the given bytes. -/
def write (tree : FileTree) (path : String) (bytes : ByteArray) : Except DiskError FileTree := do
  return tree.put (← tree.resolveFile path) (.file bytes)

/-- What making the directories that lead from a place by the given names answers, and the tree with
those that could be made. -/
def makeFrom (tree : FileTree) (place : List String) :
    List String → Except DiskError Unit × FileTree
  | [] => (.ok (), tree)
  | name :: rest =>
    match checkName name with
    | .error e => (.error e, tree)
    | .ok () =>
      if Path.isIdle name then tree.makeFrom place rest
      else
        let place := if name = ".." then place.dropLast else place ++ [name]
        match tree.node? place with
        | some .directory => tree.makeFrom place rest
        | some (.file _) =>
          (.error (if rest.isEmpty then .alreadyExists else .notDirectory), tree)
        | none => (tree.put place .directory).makeFrom place rest

/-- What making a directory and all that lead to it answers, and the tree after it. -/
def makeDirectories (tree : FileTree) (path : String) : Except DiskError Unit × FileTree :=
  match checkPath path with
  | .ok () => tree.makeFrom (tree.start path) (Path.names path)
  | .error e => (.error e, tree)

def removeFile (tree : FileTree) (path : String) : Except DiskError FileTree := do
  let place ← tree.resolve path
  match tree.node? place with
  | some (.file _) => return { tree with entries := tree.entries.filter (·.1 ≠ place) }
  | some .directory => throw .isDirectory
  | none => throw .notFound

/-- The tree without a directory and all that is in it, but for what is always there. -/
def removeDirectory (tree : FileTree) (path : String) : Except DiskError FileTree := do
  let place ← tree.resolve path
  tree.checkDirectory place
  return { tree with entries := tree.entries.filter fun (other, _) => !place.isPrefixOf other }

/-- What a change of the tree answers, and the tree after it, which is the same one on failure. -/
def changed (tree : FileTree) (result : Except DiskError FileTree) :
    Except DiskError Unit × FileTree :=
  match result with
  | .ok new => (.ok (), new)
  | .error e => (.error e, tree)

instance : Disk (StateM FileTree) where
  readText path := fun tree => (tree.readText path, tree)
  isThere path := fun tree => (tree.isThere path, tree)
  append path text := fun tree => tree.changed (tree.append path text.toUTF8)
  makeDirectories path := fun tree => tree.makeDirectories path

end FileTree

end CertaintyFactor
