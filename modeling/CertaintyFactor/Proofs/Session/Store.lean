import CertaintyFactor.Proofs.Disk.FileTree
import CertaintyFactor.Proofs.Session.Contents
import CertaintyFactor.Proofs.Text.Utf8

/-!
# Stores on a file tree

What the operations of a store answer on a disk that is a value, told from the text of its file.
`Tracks` is what a store knows of this text; adding a record keeps it.
-/

set_option autoImplicit false

namespace CertaintyFactor.Session

namespace Store

/-- The contents of a file with the given bytes. -/
def contentsOf (bytes : ByteArray) : Except DiskError Contents :=
  match String.fromUTF8? bytes with
  | some text => .ok (.ofText text)
  | none => .error .notText

theorem contentsOf_toUTF8 (text : String) : contentsOf text.toUTF8 = .ok (.ofText text) := by
  rw [contentsOf, Text.fromUTF8?_toUTF8]

theorem contentsOf_eq_error {bytes : ByteArray} (h : ¬bytes.IsValidUTF8) :
    contentsOf bytes = .error .notText := by
  rw [contentsOf, Text.fromUTF8?_eq_none h]

variable {tree : FileTree}

/-- What is done after something else starts from its answer and the disk it leaves. -/
theorem run_bind {σ α β : Type} {f : StateM σ α} {disk new : σ} {a : α} (h : f.run disk = (a, new))
    (g : α → StateM σ β) : (f >>= g).run disk = (g a).run new := by
  rw [StateT.run_bind, h]
  rfl

theorem run_contents? (tree : FileTree) (path : String) :
    (contents? path : StateM FileTree _).run tree =
      (match tree.isThere path with
        | .error e => .error e
        | .ok false => .ok none
        | .ok true => (tree.readText path).map fun text => some (.ofText text), tree) := by
  have hthere : (Disk.isThere path : StateM FileTree _).run tree = (tree.isThere path, tree) := rfl
  have htext : (Disk.readText path : StateM FileTree _).run tree = (tree.readText path, tree) := rfl
  refine (run_bind hthere _).trans ?_
  cases tree.isThere path with
  | error e => rfl
  | ok found =>
    cases found with
    | false => rfl
    | true => exact (run_bind htext _).trans rfl

theorem run_contents?_of_read {path : String} {bytes : ByteArray} (h : tree.read path = .ok bytes) :
    (contents? path : StateM FileTree _).run tree = ((contentsOf bytes).map some, tree) := by
  rw [run_contents?, FileTree.isThere_of_read h, FileTree.readText_of_read h, contentsOf]
  cases String.fromUTF8? bytes <;> rfl

/-- A file that is text is opened with the count of its records. -/
theorem run_openAt_toUTF8 {path text : String} (h : tree.read path = .ok text.toUTF8) :
    (openAt path : StateM FileTree _).run tree = (.ok (ofContents path (.ofText text)), tree) := by
  refine (run_bind (run_contents?_of_read h) _).trans ?_
  rw [contentsOf_toUTF8]
  rfl

theorem run_readAll_toUTF8 {s : Store} {text : String} (h : tree.read s.path = .ok text.toUTF8) :
    (s.readAll : StateM FileTree _).run tree = (.ok (Contents.recordsOf text), tree) := by
  refine (run_bind (run_contents?_of_read h) _).trans ?_
  rw [contentsOf_toUTF8]
  rfl

/-- A file that is no text is not opened. -/
theorem run_openAt_of_invalid {path : String} {bytes : ByteArray} (h : tree.read path = .ok bytes)
    (hbytes : ¬bytes.IsValidUTF8) :
    (openAt path : StateM FileTree _).run tree = (.error (.disk path .notText), tree) := by
  refine (run_bind (run_contents?_of_read h) _).trans ?_
  rw [contentsOf_eq_error hbytes]
  rfl

theorem run_readAll_of_invalid {s : Store} {bytes : ByteArray} (h : tree.read s.path = .ok bytes)
    (hbytes : ¬bytes.IsValidUTF8) :
    (s.readAll : StateM FileTree _).run tree = (.error (.disk s.path .notText), tree) := by
  refine (run_bind (run_contents?_of_read h) _).trans ?_
  rw [contentsOf_eq_error hbytes]
  rfl

/-- Adding is appending the record's text, and the store notes whether this succeeded. -/
theorem run_add (s : Store) (r : Record) :
    (s.add r : StateM FileTree _).run tree =
      match tree.append s.path (s.written r).toUTF8 with
      | .ok new => ((.ok r, s.afterWrite true), new)
      | .error e => ((.error (.disk s.path e), s.afterWrite false), tree) := by
  have happend : (Disk.append s.path (s.written r) : StateM FileTree _).run tree =
      tree.changed (tree.append s.path (s.written r).toUTF8) := rfl
  refine (run_bind happend _).trans ?_
  cases tree.append s.path (s.written r).toUTF8 <;> rfl

/-- Making ready for a file changes no file. -/
theorem bytes?_run_prepare (tree : FileTree) (path other : String) :
    ((prepare path : StateM FileTree _).run tree).2.bytes? other = tree.bytes? other := by
  unfold prepare
  split
  · next parent _ => exact FileTree.bytes?_makeDirectories tree parent other
  · rfl

/-- What opening answers where there is no file, once all is made ready. -/
def opened (path : String) : Except DiskError Unit → Except Error Store
  | .error e => .error (.disk path e)
  | .ok () => .ok { path := path }

/-- A store that is opened where there is no file has no records, and there is still no file. -/
theorem of_run_openAt {path : String} {s : Store} {new : FileTree}
    (hfile : tree.bytes? path = none)
    (h : (openAt path : StateM FileTree _).run tree = (.ok s, new)) :
    s = { path := path } ∧ new.bytes? path = none := by
  have hcontents := run_contents? tree path
  have htext : ∀ text, tree.readText path ≠ .ok text :=
    FileTree.readText_ne_ok_of_bytes? hfile
  cases hthere : tree.isThere path with
  | error e =>
    rw [hthere] at hcontents
    rw [openAt, run_bind hcontents] at h
    cases h
  | ok found =>
    cases found with
    | true =>
      cases hread : tree.readText path with
      | ok text => exact absurd hread (htext text)
      | error e =>
        rw [hthere, hread] at hcontents
        rw [openAt, run_bind hcontents] at h
        cases h
    | false =>
      rw [hthere] at hcontents
      rw [openAt, run_bind hcontents] at h
      have hprepare := bytes?_run_prepare tree path path
      cases hready : (prepare path : StateM FileTree _).run tree with
      | mk answer made =>
        rw [hready] at hprepare
        have hrun := (run_bind hready fun answer =>
          (pure (opened path answer) : StateM FileTree (Except Error Store))).symm.trans h
        cases answer with
        | error e => cases hrun
        | ok _ =>
          obtain ⟨rfl, rfl⟩ : ({ path := path } : Store) = s ∧ made = new := by
            have hpair := Prod.mk.inj hrun
            exact ⟨Except.ok.inj hpair.1, hpair.2⟩
          exact ⟨rfl, hprepare.trans hfile⟩

/-! ## What a store knows of its file -/

/-- The file of a store holds the given text, and the store will end its last line if it is not
ended. -/
structure Tracks (s : Store) (tree : FileTree) (text : String) : Prop where
  holds : tree.Holds s.path text
  separated : s.needsSeparator ∨ Text.isTerminated text.toList

/-- A store opened where there is no file tracks the empty text. -/
theorem tracks_empty {path : String} (h : tree.bytes? path = none) :
    Tracks { path := path } tree "" where
  holds := .of_bytes? h
  separated := .inr rfl

theorem tracks_ofContents {path text : String} (h : tree.read path = .ok text.toUTF8) :
    Tracks (ofContents path (.ofText text)) tree text where
  holds := .of_read h
  separated := by
    rw [ofContents, Contents.ofText]
    cases Text.isTerminated text.toList
    · exact .inl rfl
    · exact .inr rfl

/-- What is written for a record ends its line. -/
theorem getLast?_written (s : Store) (r : Record) (text : String) :
    (text ++ s.written r).toList.getLast? = some '\n' := by
  have hnewline : "\n".toList = ['\n'] := rfl
  simp [written, hnewline]

namespace Tracks

variable {s : Store} {text : String}

/-- What is written for a record adds the record its line is read as. -/
theorem recordsOf_written (h : Tracks s tree text) (r : Record) :
    Contents.recordsOf (text ++ s.written r) =
      Contents.recordsOf text ++ (Record.parse r.line).toOption.toList := by
  unfold written
  split
  · -- The last line is ended first, which adds no record.
    have hnew : Text.isTerminated (text ++ "\n").toList := by
      rw [String.toList_append]
      exact Text.isTerminated_append_newline _
    rw [String.append_assoc, ← String.append_assoc, Contents.recordsOf_append hnew,
      Contents.recordsOf_line, Contents.recordsOf_append_newline]
  · next hseparator =>
    rw [String.empty_append, Contents.recordsOf_append (h.separated.resolve_left hseparator),
      Contents.recordsOf_line]

/-- A record that was added stands at the end of the file, and the store tracks the new text. -/
theorem add (h : Tracks s tree text) {r answer : Record} {s' : Store} {new : FileTree}
    (hadd : (s.add r : StateM FileTree _).run tree = ((.ok answer, s'), new)) :
    answer = r ∧ s' = s.afterWrite true ∧ new.read s.path = .ok (text ++ s.written r).toUTF8 ∧
      Tracks s' new (text ++ s.written r) := by
  rw [run_add] at hadd
  split at hadd
  · next made happend =>
    obtain ⟨hpair, rfl⟩ := Prod.mk.inj hadd
    obtain ⟨hok, rfl⟩ := Prod.mk.inj hpair
    obtain rfl := Except.ok.inj hok
    have hread := h.holds.read_append happend
    refine ⟨rfl, rfl, hread, .of_read hread, .inr ?_⟩
    exact Text.isTerminated_iff.2 (.inr (getLast?_written s r text))
  · cases hadd

end Tracks

end Store

end CertaintyFactor.Session
