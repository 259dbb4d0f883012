import CertaintyFactor.Disk.FileTree
import CertaintyFactor.Proofs.Text.Utf8
import Mathlib.Data.List.Basic

/-!
# What a file tree keeps

A path leads to one place only, whatever stands in the tree. Appending to a file changes what stands
at its place and nothing else, and making directories changes no file. So what is read after an
append is what stood there before with the new bytes behind it.
-/

set_option autoImplicit false

namespace CertaintyFactor

namespace Path

/-- The place that names lead to from another one. -/
def walk (place : List String) : List String → List String
  | [] => place
  | name :: rest =>
    if isIdle name then walk place rest
    else if name = ".." then walk place.dropLast rest
    else walk (place ++ [name]) rest

end Path

namespace FileTree

/-- The place a path leads to, if it can be followed. -/
def place (tree : FileTree) (path : String) : List String :=
  Path.walk (tree.start path) (Path.names path)

/-- The bytes of the file at the place of a path, if it is a file. -/
def bytes? (tree : FileTree) (path : String) : Option ByteArray :=
  match tree.node? (tree.place path) with
  | some (.file bytes) => some bytes
  | _ => none

/-! ## Following paths -/

theorem checkDirectory_eq_ok {tree : FileTree} {place : List String} :
    tree.checkDirectory place = .ok () ↔ tree.node? place = some .directory := by
  unfold checkDirectory
  split
  · next h => simp [h]
  · next h => simp [h]
  · next h => simp [h]

/-- What following a path means, step by step. -/
theorem follow_cons_eq_ok {tree : FileTree} {place goal : List String} {name : String}
    {rest : List String} :
    tree.follow place (name :: rest) = .ok goal ↔
      tree.node? place = some .directory ∧ checkName name = .ok () ∧
        tree.follow (Path.walk place [name]) rest = .ok goal := by
  rw [← checkDirectory_eq_ok, follow]
  cases tree.checkDirectory place with
  | error e => simp [bind, Except.bind]
  | ok _ =>
    cases checkName name with
    | error e => simp [bind, Except.bind]
    | ok _ =>
      simp only [bind, Except.bind, Path.walk, true_and]
      split
      · rfl
      · split <;> rfl

theorem walk_cons (place : List String) (name : String) (rest : List String) :
    Path.walk place (name :: rest) = Path.walk (Path.walk place [name]) rest := by
  simp only [Path.walk]
  split
  · rfl
  · split <;> rfl

theorem eq_walk_of_follow {tree : FileTree} {names place goal : List String}
    (h : tree.follow place names = .ok goal) : goal = Path.walk place names := by
  induction names generalizing place with
  | nil => exact (Except.ok.inj h).symm
  | cons name rest ih => rw [walk_cons, ih (follow_cons_eq_ok.1 h).2.2]

theorem follow_append_eq_ok {tree : FileTree} {place goal : List String}
    {names rest : List String} :
    tree.follow place (names ++ rest) = .ok goal ↔
      ∃ mid, tree.follow place names = .ok mid ∧ tree.follow mid rest = .ok goal := by
  induction names generalizing place with
  | nil => simp [follow]
  | cons name names ih =>
    rw [List.cons_append, follow_cons_eq_ok, ih]
    constructor
    · rintro ⟨hplace, hname, mid, hmid, hgoal⟩
      exact ⟨mid, follow_cons_eq_ok.2 ⟨hplace, hname, hmid⟩, hgoal⟩
    · rintro ⟨mid, hmid, hgoal⟩
      obtain ⟨hplace, hname, hmid⟩ := follow_cons_eq_ok.1 hmid
      exact ⟨hplace, hname, mid, hmid, hgoal⟩

theorem resolve_eq_ok {tree : FileTree} {path : String} {goal : List String} :
    tree.resolve path = .ok goal ↔
      checkPath path = .ok () ∧ tree.follow (tree.start path) (Path.names path) = .ok goal := by
  unfold resolve
  cases checkPath path with
  | error e => simp [bind, Except.bind]
  | ok _ => simp [bind, Except.bind]

theorem eq_place_of_resolve {tree : FileTree} {path : String} {goal : List String}
    (h : tree.resolve path = .ok goal) : goal = tree.place path :=
  eq_walk_of_follow (resolve_eq_ok.1 h).2

/-- A file is written where a path leads, unless there is a directory. -/
theorem resolve_of_resolveFile {tree : FileTree} {path : String} {goal : List String}
    (h : tree.resolveFile path = .ok goal) :
    tree.resolve path = .ok goal ∧ tree.node? goal ≠ some .directory := by
  unfold resolveFile at h
  cases hpath : checkPath path with
  | error e => simp [hpath, bind, Except.bind] at h
  | ok _ =>
    rw [hpath] at h
    simp only [bind, Except.bind] at h
    split at h
    · split at h
      · cases h
      · split at h <;> cases h
    · split at h
      · cases h
      · next mid hmid =>
        split at h
        · cases h
        · next hnode =>
          obtain rfl := Except.ok.inj h
          exact ⟨resolve_eq_ok.2 ⟨hpath, hmid⟩, fun hdirectory => hnode (by rw [hdirectory])⟩

/-- Where a path leads to a file, the file can be written. -/
theorem resolveFile_of_resolve {tree : FileTree} {path : String} {goal : List String}
    (h : tree.resolve path = .ok goal) {bytes : ByteArray}
    (hnode : tree.node? goal = some (.file bytes)) : tree.resolveFile path = .ok goal := by
  obtain ⟨hpath, hfollow⟩ := resolve_eq_ok.1 h
  unfold resolveFile
  rw [hpath]
  simp only [bind, Except.bind]
  split
  · next names hnames =>
    -- The empty name at the end would have led to a directory.
    rw [← List.reverse_reverse (Path.names path), hnames, List.reverse_cons,
      follow_append_eq_ok] at hfollow
    obtain ⟨mid, -, hmid⟩ := hfollow
    obtain ⟨hdirectory, -, hgoal⟩ := follow_cons_eq_ok.1 hmid
    obtain rfl : mid = goal := Except.ok.inj hgoal
    rw [hnode] at hdirectory
    cases hdirectory
  · rw [hfollow]
    simp [hnode, pure, Except.pure]

/-! ## Changing trees -/

@[simp]
theorem workingDirectory_put (tree : FileTree) (place : List String) (node : Node) :
    (tree.put place node).workingDirectory = tree.workingDirectory :=
  rfl

/-- What is put at a place stands there, unless it is one of the directories that are always
there. -/
theorem node?_put_self {tree : FileTree} {place : List String}
    (h : tree.node? place ≠ some .directory) (node : Node) :
    (tree.put place node).node? place = some node := by
  have hplace : ¬ place <+: tree.workingDirectory := fun hprefix => h (if_pos hprefix)
  simp [node?, put, hplace]

theorem node?_put_of_ne {place other : List String} (h : other ≠ place) (tree : FileTree)
    (node : Node) : (tree.put place node).node? other = tree.node? other := by
  have hlookup (entries : List (List String × Node)) :
      (entries.filter (·.1 ≠ place)).lookup other = entries.lookup other := by
    induction entries with
    | nil => rfl
    | cons entry entries ih =>
      obtain ⟨at_, node⟩ := entry
      by_cases heq : at_ = place
      · subst heq
        rw [List.filter_cons_of_neg (by simp), ih, List.lookup_cons, beq_false_of_ne h]
      · rw [List.filter_cons_of_pos (by simpa using heq), List.lookup_cons, List.lookup_cons, ih]
  have hother : (other == place) = false := beq_false_of_ne h
  simp only [node?, put, List.lookup_cons, hother, hlookup]

/-- All directories of a tree are still there in a new one, which has the same working directory. -/
structure KeepsDirectories (tree new : FileTree) : Prop where
  workingDirectory : new.workingDirectory = tree.workingDirectory
  directory : ∀ place, tree.node? place = some .directory → new.node? place = some .directory

theorem start_congr {tree new : FileTree} (h : new.workingDirectory = tree.workingDirectory)
    (path : String) : new.start path = tree.start path := by
  rw [start, start, h]

theorem place_congr {tree new : FileTree} (h : new.workingDirectory = tree.workingDirectory)
    (path : String) : new.place path = tree.place path := by
  rw [place, place, start_congr h]

theorem KeepsDirectories.resolve {tree new : FileTree} (h : KeepsDirectories tree new)
    {path : String} {goal : List String} (hresolve : tree.resolve path = .ok goal) :
    new.resolve path = .ok goal := by
  have hfollow : ∀ names place, tree.follow place names = .ok goal →
      new.follow place names = .ok goal := by
    intro names
    induction names with
    | nil => exact fun _ => id
    | cons name rest ih =>
      intro place hplace
      obtain ⟨hdirectory, hname, hrest⟩ := follow_cons_eq_ok.1 hplace
      exact follow_cons_eq_ok.2 ⟨h.directory _ hdirectory, hname, ih _ hrest⟩
  obtain ⟨hpath, hnames⟩ := resolve_eq_ok.1 hresolve
  rw [resolve_eq_ok, start_congr h.workingDirectory]
  exact ⟨hpath, hfollow _ _ hnames⟩

theorem keepsDirectories_put {tree : FileTree} {place : List String}
    (h : tree.node? place ≠ some .directory) (node : Node) :
    KeepsDirectories tree (tree.put place node) where
  workingDirectory := rfl
  directory other hother := by
    rw [node?_put_of_ne _ tree node]
    · exact hother
    · rintro rfl
      exact h hother

/-! ## Files -/

theorem bytes?_eq_some {tree : FileTree} {path : String} {bytes : ByteArray} :
    tree.bytes? path = some bytes ↔ tree.node? (tree.place path) = some (.file bytes) := by
  unfold bytes?
  cases tree.node? (tree.place path) with
  | none => simp
  | some node => cases node <;> simp

theorem read_eq_ok {tree : FileTree} {path : String} {bytes : ByteArray} :
    tree.read path = .ok bytes ↔
      tree.resolve path = .ok (tree.place path) ∧
        tree.node? (tree.place path) = some (.file bytes) := by
  unfold read
  cases hresolve : tree.resolve path with
  | error e => simp [bind, Except.bind]
  | ok goal =>
    obtain rfl := eq_place_of_resolve hresolve
    cases hnode : tree.node? (tree.place path) with
    | none => simp [bind, Except.bind, hnode, throw, throwThe, MonadExceptOf.throw]
    | some node =>
      cases node <;>
        simp [bind, Except.bind, hnode, pure, Except.pure, throw, throwThe, MonadExceptOf.throw]

theorem isThere_of_read {tree : FileTree} {path : String} {bytes : ByteArray}
    (h : tree.read path = .ok bytes) : tree.isThere path = .ok true := by
  obtain ⟨hresolve, hnode⟩ := read_eq_ok.1 h
  simp [isThere, hresolve, hnode]

/-- The text of a file, where its bytes are one. -/
theorem readText_of_read {tree : FileTree} {path : String} {bytes : ByteArray}
    (h : tree.read path = .ok bytes) :
    tree.readText path =
      match String.fromUTF8? bytes with
      | some text => .ok text
      | none => .error .notText := by
  unfold readText
  rw [h]
  simp only [bind, Except.bind]
  cases String.fromUTF8? bytes <;> rfl

theorem readText_of_error {tree : FileTree} {path : String} {reason : DiskError}
    (h : tree.read path = .error reason) : tree.readText path = .error reason := by
  unfold readText
  rw [h]
  rfl

theorem append_eq_ok {tree new : FileTree} {path : String} {bytes : ByteArray} :
    tree.append path bytes = .ok new ↔
      tree.resolveFile path = .ok (tree.place path) ∧
        new = tree.put (tree.place path) (.file ((tree.bytes? path).getD .empty ++ bytes)) := by
  unfold append
  cases hresolve : tree.resolveFile path with
  | error e => simp [bind, Except.bind]
  | ok goal =>
    obtain rfl := eq_place_of_resolve (resolve_of_resolveFile hresolve).1
    unfold bytes?
    cases hnode : tree.node? (tree.place path) with
    | none => simp [bind, Except.bind, hnode, pure, Except.pure, eq_comm]
    | some node => cases node <;> simp [bind, Except.bind, hnode, pure, Except.pure, eq_comm]

/-- After an append, a file holds what it held before with the new bytes behind it. -/
theorem read_append {tree new : FileTree} {path : String} {bytes : ByteArray}
    (h : tree.append path bytes = .ok new) :
    new.read path = .ok ((tree.bytes? path).getD .empty ++ bytes) := by
  obtain ⟨hresolve, rfl⟩ := append_eq_ok.1 h
  obtain ⟨hplace, hnode⟩ := resolve_of_resolveFile hresolve
  rw [read_eq_ok, place_congr (workingDirectory_put tree _ _)]
  -- No directory stood at the place, so the path is followed as before.
  exact ⟨(keepsDirectories_put hnode _).resolve hplace, node?_put_self hnode _⟩

/-- A file that can be read can be appended to. -/
theorem exists_append_of_read {tree : FileTree} {path : String} {old : ByteArray}
    (h : tree.read path = .ok old) (bytes : ByteArray) :
    ∃ new, tree.append path bytes = .ok new := by
  obtain ⟨hresolve, hnode⟩ := read_eq_ok.1 h
  exact ⟨_, append_eq_ok.2 ⟨resolveFile_of_resolve hresolve hnode, rfl⟩⟩

theorem bytes?_of_read {tree : FileTree} {path : String} {bytes : ByteArray}
    (h : tree.read path = .ok bytes) : tree.bytes? path = some bytes :=
  bytes?_eq_some.2 (read_eq_ok.1 h).2

/-- A file holds a text, or there is no file and the text is empty. -/
def Holds (tree : FileTree) (path text : String) : Prop :=
  (tree.bytes? path).getD .empty = text.toUTF8

namespace Holds

variable {tree : FileTree} {path text : String}

theorem of_bytes? (h : tree.bytes? path = none) : tree.Holds path "" := by
  rw [Holds, h]
  rfl

theorem of_read (h : tree.read path = .ok text.toUTF8) : tree.Holds path text := by
  rw [Holds, bytes?_of_read h]
  rfl

/-- After an append, the new text stands behind the old one. -/
theorem read_append {more : String} {new : FileTree} (h : tree.Holds path text)
    (happend : tree.append path more.toUTF8 = .ok new) :
    new.read path = .ok (text ++ more).toUTF8 := by
  rw [FileTree.read_append happend, h, ← Text.toUTF8_append]

end Holds

theorem readText_ne_ok_of_bytes? {tree : FileTree} {path : String} (h : tree.bytes? path = none)
    (text : String) : tree.readText path ≠ .ok text := by
  intro htext
  cases hread : tree.read path with
  | ok bytes =>
    rw [bytes?_of_read hread] at h
    cases h
  | error e =>
    unfold readText at htext
    rw [hread] at htext
    cases htext

/-- Making directories changes no file. -/
theorem node?_makeFrom {names place other : List String} {tree : FileTree} (bytes : ByteArray) :
    (tree.makeFrom place names).2.node? other = some (.file bytes) ↔
      tree.node? other = some (.file bytes) := by
  induction names generalizing tree place with
  | nil => rfl
  | cons name rest ih =>
    rw [makeFrom]
    split
    · rfl
    split
    · exact ih
    dsimp only
    split
    · exact ih
    · rfl
    · next hnone =>
      -- A directory is put only where nothing stands, so it covers no file.
      rw [ih]
      by_cases heq : other = if name = ".." then place.dropLast else place ++ [name]
      · rw [← heq] at hnone ⊢
        rw [node?_put_self (by simp [hnone]), hnone]
        simp
      · rw [node?_put_of_ne heq]

theorem workingDirectory_makeFrom (tree : FileTree) (place names : List String) :
    (tree.makeFrom place names).2.workingDirectory = tree.workingDirectory := by
  induction names generalizing tree place with
  | nil => rfl
  | cons name rest ih =>
    rw [makeFrom]
    split
    · rfl
    split
    · exact ih tree place
    dsimp only
    split
    · exact ih tree _
    · rfl
    · exact ih _ _

theorem workingDirectory_makeDirectories (tree : FileTree) (path : String) :
    (tree.makeDirectories path).2.workingDirectory = tree.workingDirectory := by
  unfold makeDirectories
  split
  · exact workingDirectory_makeFrom tree _ _
  · rfl

theorem bytes?_makeDirectories (tree : FileTree) (path other : String) :
    (tree.makeDirectories path).2.bytes? other = tree.bytes? other := by
  have hnode (bytes : ByteArray) :
      (tree.makeDirectories path).2.node? (tree.place other) = some (.file bytes) ↔
        tree.node? (tree.place other) = some (.file bytes) := by
    unfold makeDirectories
    split
    · exact node?_makeFrom bytes
    · rfl
  ext bytes
  rw [bytes?_eq_some, bytes?_eq_some, place_congr (workingDirectory_makeDirectories tree path),
    hnode]

end FileTree

end CertaintyFactor
