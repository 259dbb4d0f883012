import CertaintyFactor.Toml.Value

/-!
# Building TOML tables

A table may be opened by a header, by a dotted key or by a header of one of its own tables, and the
rules on which of them go together need to know which it was. Headers may complete a table that was
only named on the way to another one; dotted keys may add to tables that dotted keys made; nothing
adds to a value.
-/

set_option autoImplicit false

namespace CertaintyFactor.Toml

/-- A place in a document being built. -/
inductive Node where
  | value (content : Toml)
  /-- A table: whether it was only named on the way to another one, and whether by a dotted key. -/
  | table (implicit dotted : Bool) (members : List (String × Node))
  /-- The tables of an array of tables, the last one first. -/
  | tables (reversed : List Node)

/-- The members of a table being built. -/
abbrev Members := List (String × Node)

namespace Members

/-- The members with the value of one changed or added at the end. -/
def put (members : Members) (key : String) (node : Node) : Members :=
  match members with
  | [] => [(key, node)]
  | (name, old) :: rest =>
    if name = key then (key, node) :: rest else (name, old) :: put rest key node

/-- Changes the table at a path, where tables that are missing on the way are made. The change is
told whether a dotted key made the table. -/
def change (byDottedKey : Bool) (f : Bool → Members → Except Error Members) :
    List String → Bool → Members → Except Error Members
  | [], dotted, members => f dotted members
  | key :: path, _, members =>
    match members.lookup key with
    | none => do
      let inner ← change byDottedKey f path byDottedKey []
      return members ++ [(key, .table true byDottedKey inner)]
    | some (.table implicit dotted inner) =>
      if byDottedKey && !implicit then .error (.redefined key)
      else do
        let inner ← change byDottedKey f path dotted inner
        return members.put key (.table implicit dotted inner)
    | some (.tables (.table implicit dotted inner :: others)) => do
      let inner ← change byDottedKey f path dotted inner
      return members.put key (.tables (.table implicit dotted inner :: others))
    | some _ => .error (.redefined key)

/-- Adds a value under a dotted key of a path and a last part. -/
def addValue (members : Members) (path : List String) (key : String) (value : Toml) :
    Except Error Members :=
  let add (dotted : Bool) (members : Members) : Except Error Members :=
    if dotted = path.isEmpty || (members.lookup key).isSome then .error (.redefined key)
    else .ok (members ++ [(key, .value value)])
  change true add path false members

/-- Adds values one after the other. -/
def addValues (members : Members) (pairs : List (List String × String × Toml)) :
    Except Error Members :=
  pairs.foldlM (fun members (path, key, value) => members.addValue path key value) members

/-- Adds a table that a header opens. -/
def addTable (members : Members) (path : List String) (key : String)
    (pairs : List (List String × String × Toml)) : Except Error Members :=
  let add (_ : Bool) (members : Members) : Except Error Members :=
    match members.lookup key with
    | none => do return members.put key (.table false false (← addValues [] pairs))
    | some (.table true false inner) => do
      return members.put key (.table false false (← addValues inner pairs))
    | some _ => .error (.redefined key)
  change false add path false members

/-- Adds a table to the array of tables that a header names. -/
def addItem (members : Members) (path : List String) (key : String)
    (pairs : List (List String × String × Toml)) : Except Error Members :=
  let add (_ : Bool) (members : Members) : Except Error Members :=
    match members.lookup key with
    | none => do return members.put key (.tables [.table false false (← addValues [] pairs)])
    | some (.tables items) => do
      return members.put key (.tables (.table false false (← addValues [] pairs) :: items))
    | some _ => .error (.redefined key)
  change false add path false members

end Members

mutual

/-- The finished value of a place. -/
def Node.toToml : Node → Toml
  | .value content => content
  | .table _ _ members => .table (membersToToml members)
  | .tables reversed => .array (nodesToToml reversed).reverse

def nodesToToml : List Node → List Toml
  | [] => []
  | node :: rest => node.toToml :: nodesToToml rest

def membersToToml : List (String × Node) → List (String × Toml)
  | [] => []
  | (name, node) :: rest => (name, node.toToml) :: membersToToml rest

end

end CertaintyFactor.Toml
