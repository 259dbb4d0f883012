import CertaintyFactor.Proofs.Disk.FileTree

/-!
# The way of a path

Following a path asks only what stands at the places it goes through. So trees that have the same at
all places of a path's way read the same there (`FileTree.read_congr`). Making directories changes
what stands at a place only where nothing stood (`FileTree.node?_makeDirectories`), so a file that
can be read reads the same afterwards (`FileTree.readText_makeDirectories`). A `GuardedTree` is a
file tree on which some accesses are refused whatever stands there.
-/

set_option autoImplicit false

namespace CertaintyFactor

namespace Path

/-- The places that names go through from a place, with that one and the one they lead to. -/
def wayFrom (place : List String) : List String → List (List String)
  | [] => [place]
  | name :: rest => place :: wayFrom (walk place [name]) rest

theorem walk_mem_wayFrom (place names : List String) : walk place names ∈ wayFrom place names := by
  induction names generalizing place with
  | nil => exact List.mem_singleton_self place
  | cons name rest ih =>
    rw [FileTree.walk_cons]
    exact List.mem_cons_of_mem _ (ih _)

end Path

namespace FileTree

/-- The places that a path goes through, with the one it is followed from and the one it leads
to. -/
def way (tree : FileTree) (path : String) : List (List String) :=
  Path.wayFrom (tree.start path) (Path.names path)

/-! ## Reading -/

theorem follow_cons (tree : FileTree) (place : List String) (name : String) (rest : List String) :
    tree.follow place (name :: rest) = (do
      tree.checkDirectory place
      checkName name
      tree.follow (Path.walk place [name]) rest) := by
  rw [follow]
  simp only [Path.walk]
  congr 2
  funext _
  split
  · rfl
  · split <;> rfl

section

variable {tree other : FileTree}

theorem checkDirectory_congr {place : List String} (h : tree.node? place = other.node? place) :
    tree.checkDirectory place = other.checkDirectory place := by
  rw [checkDirectory, checkDirectory, h]

theorem follow_congr {place names : List String}
    (h : ∀ p ∈ Path.wayFrom place names, tree.node? p = other.node? p) :
    tree.follow place names = other.follow place names := by
  induction names generalizing place with
  | nil => rfl
  | cons name rest ih =>
    obtain ⟨hplace, hrest⟩ := List.forall_mem_cons.1 h
    rw [follow_cons, follow_cons, checkDirectory_congr hplace, ih hrest]

/-- What is read at a path depends only on what stands on its way. -/
theorem read_congr {path : String} (hstart : tree.workingDirectory = other.workingDirectory)
    (h : ∀ p ∈ other.way path, tree.node? p = other.node? p) :
    tree.read path = other.read path := by
  have hresolve : tree.resolve path = other.resolve path := by
    rw [resolve, resolve, start_congr hstart, follow_congr h]
  unfold read
  rw [hresolve]
  cases hgoal : other.resolve path with
  | error e => rfl
  | ok goal =>
    have hmem : goal ∈ other.way path := by
      rw [eq_place_of_resolve hgoal]
      exact Path.walk_mem_wayFrom (other.start path) (Path.names path)
    simp only [bind, Except.bind, h goal hmem]

/-- What stands on the way of a path that can be followed: directories up to the last place. -/
theorem node?_of_follow {place names goal p : List String} (h : tree.follow place names = .ok goal)
    (hp : p ∈ Path.wayFrom place names) : p = goal ∨ tree.node? p = some .directory := by
  induction names generalizing place with
  | nil =>
    obtain rfl : place = goal := Except.ok.inj h
    exact .inl (List.mem_singleton.1 hp)
  | cons name rest ih =>
    obtain ⟨hdirectory, -, hrest⟩ := follow_cons_eq_ok.1 h
    rcases List.mem_cons.1 hp with rfl | hp
    · exact .inr hdirectory
    · exact ih hrest hp

/-- All places on the way of a file that can be read are taken. -/
theorem node?_ne_none_of_read {path : String} {bytes : ByteArray} (h : tree.read path = .ok bytes)
    {p : List String} (hp : p ∈ tree.way path) : tree.node? p ≠ none := by
  obtain ⟨hresolve, hfile⟩ := read_eq_ok.1 h
  rcases node?_of_follow (resolve_eq_ok.1 hresolve).2 hp with rfl | hdirectory
  · rw [hfile]
    exact Option.some_ne_none _
  · rw [hdirectory]
    exact Option.some_ne_none _

end

/-! ## Making directories -/

theorem node?_makeFrom_cases (tree : FileTree) (place names other : List String) :
    (tree.makeFrom place names).2.node? other = tree.node? other ∨ tree.node? other = none := by
  induction names generalizing tree place with
  | nil => exact .inl rfl
  | cons name rest ih =>
    rw [makeFrom]
    split
    · exact .inl rfl
    split
    · exact ih tree place
    dsimp only
    split
    · exact ih tree _
    · exact .inl rfl
    · next hnone =>
      by_cases heq : other = if name = ".." then place.dropLast else place ++ [name]
      · exact .inr (heq ▸ hnone)
      · rw [← node?_put_of_ne heq tree .directory]
        exact ih _ _

/-- Making directories changes what stands at a place only where there was nothing. -/
theorem node?_makeDirectories (tree : FileTree) (path : String) (other : List String) :
    (tree.makeDirectories path).2.node? other = tree.node? other ∨ tree.node? other = none := by
  unfold makeDirectories
  split
  · exact node?_makeFrom_cases tree _ (Path.names path) other
  · exact .inl rfl

/-- A file that can be read reads the same when directories have been made. -/
theorem readText_makeDirectories {tree : FileTree} {path text : String}
    (h : tree.readText path = .ok text) (parent : String) :
    (tree.makeDirectories parent).2.readText path = .ok text := by
  cases hread : tree.read path with
  | error e =>
    rw [readText_of_error hread] at h
    cases h
  | ok bytes =>
    have hsame : (tree.makeDirectories parent).2.read path = tree.read path :=
      read_congr (workingDirectory_makeDirectories tree parent) fun p hp =>
        (node?_makeDirectories tree parent p).resolve_right (node?_ne_none_of_read hread hp)
    rw [← h, readText, readText, hsame]

end FileTree

/-! ## Disks that refuse -/

/-- What a disk is asked to do at a path. -/
inductive Access where
  | read
  | look
  | append
  | make
deriving DecidableEq, Repr

/-- A file tree of which some accesses are refused. -/
structure GuardedTree where
  tree : FileTree
  refusal? : Access → String → Option DiskError := fun _ _ => none

namespace GuardedTree

/-- What is answered unless the access is refused. -/
def answer {α : Type} (disk : GuardedTree) (access : Access) (path : String)
    (result : Except DiskError α) : Except DiskError α :=
  match disk.refusal? access path with
  | some e => .error e
  | none => result

def readText (disk : GuardedTree) (path : String) : Except DiskError String :=
  disk.answer .read path (disk.tree.readText path)

def isThere (disk : GuardedTree) (path : String) : Except DiskError Bool :=
  disk.answer .look path (disk.tree.isThere path)

/-- What a change answers, and the disk after it. A change that is refused changes nothing. -/
def change (disk : GuardedTree) (access : Access) (path : String)
    (result : Except DiskError Unit × FileTree) : Except DiskError Unit × GuardedTree :=
  match disk.refusal? access path with
  | some e => (.error e, disk)
  | none => (result.1, { disk with tree := result.2 })

/-- The disk after the directories that lead to one are to be made. -/
def withDirectories (disk : GuardedTree) (parent : String) : GuardedTree :=
  (disk.change .make parent (disk.tree.makeDirectories parent)).2

theorem readText_withDirectories {disk : GuardedTree} {path text : String}
    (h : disk.readText path = .ok text) (parent : String) :
    (disk.withDirectories parent).readText path = .ok text := by
  unfold withDirectories change
  cases disk.refusal? .make parent with
  | some e => exact h
  | none =>
    unfold readText answer at h ⊢
    dsimp only
    cases hrefused : disk.refusal? .read path with
    | some e =>
      rw [hrefused] at h
      cases h
    | none =>
      rw [hrefused] at h
      exact FileTree.readText_makeDirectories h parent

instance : Disk (StateM GuardedTree) where
  readText path := fun disk => (disk.readText path, disk)
  isThere path := fun disk => (disk.isThere path, disk)
  append path text := fun disk =>
    disk.change .append path (disk.tree.changed (disk.tree.append path text.toUTF8))
  makeDirectories path := fun disk => disk.change .make path (disk.tree.makeDirectories path)

end GuardedTree

end CertaintyFactor
