import CertaintyFactor.Proofs.Disk.FileTree

/-!
# Disks on which writing fails

A file tree with the faults that its next appends meet. A fault keeps a file from being opened, or
stops the writing after some characters. So whatever an append answers, the file holds what it held
before and a beginning of the text.
-/

set_option autoImplicit false

namespace CertaintyFactor

/-- What goes wrong when a text is appended to a file. -/
inductive Fault where
  /-- The file cannot be opened. -/
  | unopened (reason : DiskError)
  /-- Writing stops after a number of characters. -/
  | stopped (size : Nat) (reason : DiskError)
deriving DecidableEq, Repr

namespace FileTree

/-- What appending a text answers, and the tree after it, when a fault is met or none. -/
def appendMeeting (tree : FileTree) (fault : Option Fault) (path text : String) :
    Except DiskError Unit × FileTree :=
  match fault with
  | none => tree.changed (tree.append path text.toUTF8)
  | some (.unopened reason) => (.error reason, tree)
  | some (.stopped size reason) =>
    let begun := String.ofList (text.toList.take size)
    (.error reason, (tree.changed (tree.append path begun.toUTF8)).2)

namespace Holds

variable {tree : FileTree} {path text : String}

/-- A change that fails leaves the text as it is. -/
theorem changed (h : tree.Holds path text) (more : String) :
    ∃ written : String, written.toList <+: more.toList ∧
      (∀ answer, (tree.changed (tree.append path more.toUTF8)).1 = .ok answer → written = more) ∧
      (tree.changed (tree.append path more.toUTF8)).2.Holds path (text ++ written) := by
  cases happend : tree.append path more.toUTF8 with
  | ok new => exact ⟨more, List.prefix_refl _, fun _ _ => rfl, .of_read (h.read_append happend)⟩
  | error e =>
    refine ⟨"", List.nil_prefix, nofun, ?_⟩
    rw [String.append_empty]
    exact h

/-- An append writes a beginning of the text, and all of it if it succeeds. -/
theorem appendMeeting (h : tree.Holds path text) (fault : Option Fault) (more : String) :
    ∃ written : String, written.toList <+: more.toList ∧
      (∀ answer, (tree.appendMeeting fault path more).1 = .ok answer → written = more) ∧
      (tree.appendMeeting fault path more).2.Holds path (text ++ written) := by
  match fault with
  | none => exact h.changed more
  | some (.unopened reason) =>
    refine ⟨"", List.nil_prefix, nofun, ?_⟩
    rw [String.append_empty]
    exact h
  | some (.stopped size reason) =>
    obtain ⟨written, hbegun, -, hholds⟩ := h.changed (.ofList (more.toList.take size))
    rw [String.toList_ofList] at hbegun
    exact ⟨written, hbegun.trans (List.take_prefix size _), nofun, hholds⟩

end Holds

end FileTree

/-- A file tree whose appends meet the given faults, one each, and none once these are used up. -/
structure FaultyTree where
  tree : FileTree
  faults : List (Option Fault)

namespace FaultyTree

instance : Disk (StateM FaultyTree) where
  readText path := fun disk => (disk.tree.readText path, disk)
  isThere path := fun disk => (disk.tree.isThere path, disk)
  append path text := fun disk =>
    let (answer, tree) := disk.tree.appendMeeting disk.faults.head?.join path text
    (answer, ⟨tree, disk.faults.tail⟩)
  makeDirectories path := fun disk =>
    let (answer, tree) := disk.tree.makeDirectories path
    (answer, { disk with tree := tree })

end FaultyTree

end CertaintyFactor
