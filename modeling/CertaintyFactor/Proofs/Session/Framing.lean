import CertaintyFactor.Proofs.Disk.Faults
import CertaintyFactor.Proofs.Pairing
import CertaintyFactor.Proofs.Run
import CertaintyFactor.Proofs.Session.Store

/-!
# Lines of a store under failing writes

Records are added to a store on a disk where writing fails at any time. Each record that is added
stands on a line of its own, in order, whatever a failed write left before it. Behind the lines that
were there, nothing else comes up than blank lines and beginnings of the lines that failed.
-/

set_option autoImplicit false

namespace CertaintyFactor.Session

open List (Forall₂)

/-! ## Lines that stay -/

/-- A line that is still there, perhaps without the carriage return at its end. It is read as the
same record, if as any. -/
structure Keeps (line kept : List Char) : Prop where
  recordOf?_eq : Contents.recordOf? kept = Contents.recordOf? line
  eq_of_isLine : Text.IsLine line → kept = line

namespace Keeps

theorem refl (line : List Char) : Keeps line line :=
  ⟨rfl, fun _ => rfl⟩

theorem trans {line kept later : List Char} (h : Keeps line kept) (h' : Keeps kept later) :
    Keeps line later where
  recordOf?_eq := h'.recordOf?_eq.trans h.recordOf?_eq
  eq_of_isLine hline := by
    obtain rfl := h.eq_of_isLine hline
    exact h'.eq_of_isLine hline

theorem dropReturn (line : List Char) : Keeps line (Text.dropReturn line) where
  recordOf?_eq := Contents.recordOf?_dropReturn line
  eq_of_isLine hline := Text.dropReturn_of_getLast? hline.getLast?_ne

theorem forall₂_refl (lines : List (List Char)) : Forall₂ Keeps lines lines :=
  List.forall₂_same.2 fun line _ => refl line

end Keeps

/-- A newline behind a text ends its last line, or adds a blank one. -/
theorem exists_lines_newline (text : List Char) : ∃ kept blanks,
    Text.lines (text ++ ['\n']) = kept ++ blanks ∧ Forall₂ Keeps (Text.lines text) kept ∧
      ∀ line ∈ blanks, line = [] := by
  by_cases htext : Text.isTerminated text
  · refine ⟨Text.lines text, [[]], Text.lines_append htext ['\n'], Keeps.forall₂_refl _, ?_⟩
    exact fun line hline => List.mem_singleton.1 hline
  · obtain ⟨before, last, hbefore, hlast⟩ := Text.lines_append_newline htext
    refine ⟨before ++ [Text.dropReturn last], [], by rw [hlast, List.append_nil], ?_, nofun⟩
    rw [hbefore]
    exact List.rel_append (Keeps.forall₂_refl before) (.cons (.dropReturn last) .nil)

/-- The lines of a text that ends within a line or with it. -/
theorem lines_of_begun {line begun : List Char} (hline : Text.IsLine line)
    (hbegun : begun <+: line ++ ['\n']) : (∀ l ∈ Text.lines begun, l <+: line) ∧
      (begun = line ++ ['\n'] → Text.lines begun = [line]) := by
  have hended : begun = line ++ ['\n'] → Text.lines begun = [line] := by
    rintro rfl
    exact hline.lines_ended
  refine ⟨fun l hl => ?_, hended⟩
  rcases List.prefix_concat_iff.1 hbegun with heq | hshort
  · rw [hended heq, List.mem_singleton] at hl
    exact hl ▸ List.prefix_refl line
  · obtain ⟨more, rfl⟩ := hshort
    rw [hline.of_append.lines] at hl
    split at hl
    · cases hl
    · rw [List.mem_singleton.1 hl]
      exact List.prefix_append begun more

/-! ## Lines that are added -/

/-- The lines that adding a record to a store puts into its file. They begin as the record's line
does, the blank ones among them, and if the answer is good the last one is that line. -/
structure Adds (r : Record) (answer : Except Error Record) (added : List (List Char)) : Prop where
  begun : ∀ line ∈ added, line <+: r.line.toList
  of_ok : ∀ d, answer = .ok d →
    d = r ∧ ∃ blanks, added = blanks ++ [r.line.toList] ∧ ∀ line ∈ blanks, line = []

theorem Adds.isLine {r : Record} {answer : Except Error Record} {added : List (List Char)}
    (h : Adds r answer added) : ∀ line ∈ added, Text.IsLine line := by
  intro line hline
  obtain ⟨more, hmore⟩ := h.begun line hline
  have hall := r.isLine_line
  rw [← hmore] at hall
  exact hall.of_append

/-- The lines `now` are the lines `before` and behind them those that some calls added, call by
call. -/
def Framed (calls : List (Record × Except Error Record)) (before now : List (List Char)) : Prop :=
  ∃ kept parts, now = kept ++ parts.flatten ∧ Forall₂ Keeps before kept ∧
    Forall₂ (fun call added => Adds call.1 call.2 added) calls parts

namespace Framed

theorem nil (lines : List (List Char)) : Framed [] lines lines :=
  ⟨lines, [], (List.append_nil _).symm, Keeps.forall₂_refl lines, .nil⟩

/-- What was added stays as it is. -/
theorem append {calls calls' : List (Record × Except Error Record)}
    {before now later : List (List Char)} (h : Framed calls before now)
    (h' : Framed calls' now later) : Framed (calls ++ calls') before later := by
  obtain ⟨kept, parts, rfl, hkept, hparts⟩ := h
  obtain ⟨_, parts', rfl, hall, hparts'⟩ := h'
  obtain ⟨kept', added, rfl, hkept', hadded⟩ := exists_append_of_forall₂ hall
  have hlines : ∀ line ∈ parts.flatten, Text.IsLine line := by
    intro line hline
    obtain ⟨part, hpart, hline⟩ := List.mem_flatten.1 hline
    obtain ⟨i, hi, rfl⟩ := List.mem_iff_getElem.1 hpart
    have hcall := hparts.get (hparts.length_eq ▸ hi) hi
    exact hcall.isLine line hline
  obtain rfl := eq_of_forall₂ hadded fun line hline _ h => h.eq_of_isLine (hlines line hline)
  refine ⟨kept', parts ++ parts', ?_, ?_, List.rel_append hparts hparts'⟩
  · rw [List.flatten_append, List.append_assoc]
  · exact forall₂_comp hkept hkept' fun _ _ _ _ h h' => h.trans h'

end Framed

namespace Store

theorem toList_written (s : Store) (r : Record) :
    (s.written r).toList =
      (if s.needsSeparator then ['\n'] else []) ++ (r.line.toList ++ ['\n']) := by
  have hnewline : "\n".toList = ['\n'] := rfl
  rw [written, String.toList_append, String.toList_append, hnewline, List.append_assoc]
  split <;> rfl

/-- Writing a beginning of what is to be written for a record, or all of it, adds lines of that
record only. -/
theorem framed_written {s : Store} {text written : List Char}
    (hseparated : s.needsSeparator ∨ Text.isTerminated text) {r : Record}
    (hwritten : written <+: (s.written r).toList) {answer : Except Error Record}
    (hok : ∀ d, answer = .ok d → d = r ∧ written = (s.written r).toList) :
    Framed [(r, answer)] (Text.lines text) (Text.lines (text ++ written)) := by
  rw [toList_written] at hwritten hok
  by_cases hseparator : s.needsSeparator
  · rw [if_pos hseparator, List.singleton_append] at hwritten hok
    cases written with
    | nil =>
      refine ⟨Text.lines text, [[]], by simp, Keeps.forall₂_refl _, .cons ⟨nofun, ?_⟩ .nil⟩
      intro d hd
      cases (hok d hd).2
    | cons c begun =>
      obtain ⟨rfl, hbegun⟩ := List.cons_prefix_cons.1 hwritten
      obtain ⟨kept, blanks, hnewline, hkept, hblanks⟩ := exists_lines_newline text
      obtain ⟨hlines, hwhole⟩ := lines_of_begun r.isLine_line hbegun
      refine ⟨kept, [blanks ++ Text.lines begun], ?_, hkept, .cons ⟨?_, fun d hd => ?_⟩ .nil⟩
      · rw [List.append_cons, Text.lines_append (Text.isTerminated_append_newline text), hnewline,
          List.flatten_singleton, List.append_assoc]
      · intro line hline
        rcases List.mem_append.1 hline with hblank | hline
        · rw [hblanks line hblank]
          exact List.nil_prefix
        · exact hlines line hline
      · obtain ⟨rfl, heq⟩ := hok d hd
        exact ⟨rfl, blanks, by rw [hwhole (List.cons.inj heq).2], hblanks⟩
  · rw [if_neg hseparator, List.nil_append] at hwritten hok
    obtain ⟨hlines, hwhole⟩ := lines_of_begun r.isLine_line hwritten
    refine ⟨Text.lines text, [Text.lines written], ?_, Keeps.forall₂_refl _,
      .cons ⟨hlines, fun d hd => ?_⟩ .nil⟩
    · rw [Text.lines_append (hseparated.resolve_left hseparator), List.flatten_singleton]
    · obtain ⟨rfl, heq⟩ := hok d hd
      exact ⟨rfl, [], hwhole heq, nofun⟩

/-! ## Runs with faults -/

/-- Adding a record to a store on a disk with faults. -/
def attempt (on : Store × FaultyTree) (r : Record) :
    Except Error Record × (Store × FaultyTree) :=
  let ((answer, s), disk) := (on.1.add r : StateM FaultyTree _).run on.2
  (answer, s, disk)

/-- Adding is appending the record's text, and the store notes whether this succeeded. -/
theorem attempt_eq (s : Store) (disk : FaultyTree) (r : Record) :
    attempt (s, disk) r =
      match disk.tree.appendMeeting disk.faults.head?.join s.path (s.written r) with
      | (.ok (), new) => (.ok r, s.afterWrite true, ⟨new, disk.faults.tail⟩)
      | (.error e, new) =>
        (.error (.disk s.path e), s.afterWrite false, ⟨new, disk.faults.tail⟩) := by
  cases happend : disk.tree.appendMeeting disk.faults.head?.join s.path (s.written r) with
  | mk answer new =>
    have hrun : (Disk.append s.path (s.written r) : StateM FaultyTree _).run disk =
        (answer, ⟨new, disk.faults.tail⟩) := by
      show (fun result : _ × FileTree => (result.1, FaultyTree.mk result.2 disk.faults.tail))
        (disk.tree.appendMeeting disk.faults.head?.join s.path (s.written r)) = _
      rw [happend]
    unfold attempt
    rw [add, run_bind hrun]
    cases answer <;> rfl

/-- Whether adding succeeds or not, the file ends in lines of the record, and the store knows if the
last one is ended. -/
theorem Tracks.attempt {s : Store} {disk : FaultyTree} {text : String}
    (h : s.Tracks disk.tree text) (r : Record) :
    let after := Store.attempt (s, disk) r
    ∃ now : String, after.2.1.Tracks after.2.2.tree now ∧
      Framed [(r, after.1)] (Text.lines text.toList) (Text.lines now.toList) ∧
      after.2.1.path = s.path ∧ after.2.1.count = s.count + if after.1.isOk then 1 else 0 := by
  obtain ⟨written, hbegun, hwhole, hholds⟩ :=
    h.holds.appendMeeting disk.faults.head?.join (s.written r)
  have hframed (answer : Except Error Record)
      (hok : ∀ d, answer = .ok d → d = r ∧ written.toList = (s.written r).toList) :
      Framed [(r, answer)] (Text.lines text.toList) (Text.lines (text ++ written).toList) := by
    rw [String.toList_append]
    exact framed_written h.separated hbegun hok
  rw [attempt_eq]
  split
  · next new happend =>
    rw [happend] at hwhole hholds
    obtain rfl := hwhole () rfl
    refine ⟨_, ⟨hholds, .inr ?_⟩, hframed _ ?_, rfl, rfl⟩
    · exact Text.isTerminated_iff.2 (.inr (getLast?_written s r text))
    · intro d hd
      exact ⟨(Except.ok.inj hd).symm, rfl⟩
  · next e new happend =>
    rw [happend] at hholds
    exact ⟨_, ⟨hholds, .inl rfl⟩, hframed _ nofun, rfl, rfl⟩

/-- The same for a run of records. -/
theorem Tracks.runSteps_attempt {s : Store} {disk : FaultyTree} {text : String}
    (h : s.Tracks disk.tree text) (rs : List Record) :
    let run := runSteps Store.attempt (s, disk) rs
    ∃ now : String, run.2.1.Tracks run.2.2.tree now ∧
      Framed (rs.zip run.1) (Text.lines text.toList) (Text.lines now.toList) ∧
      run.2.1.path = s.path ∧ run.2.1.count = s.count + run.1.countP (·.isOk) := by
  induction rs generalizing s disk text with
  | nil => exact ⟨text, h, .nil _, rfl, rfl⟩
  | cons r rs ih =>
    obtain ⟨mid, htracks, hframed, hpath, hcount⟩ := h.attempt r
    obtain ⟨now, htracks', hframed', hpath', hcount'⟩ := ih htracks
    refine ⟨now, htracks', hframed.append hframed', hpath'.trans hpath, ?_⟩
    rw [runSteps, List.countP_cons, Nat.add_comm (List.countP _ _), ← Nat.add_assoc, ← hcount]
    exact hcount'

/-- A store that is opened tracks the text of its file, and counts the records in it. -/
theorem tracks_of_run_openAt {path text : String} {tree opened : FileTree} {s : Store}
    (hfile : tree.read path = .ok text.toUTF8 ∨ tree.bytes? path = none ∧ text = "")
    (hopen : (openAt path : StateM FileTree _).run tree = (.ok s, opened)) :
    s.Tracks opened text ∧ s.path = path ∧ s.count = (Contents.recordsOf text).length := by
  rcases hfile with hread | ⟨hnone, rfl⟩
  · obtain ⟨hs, rfl⟩ := Prod.mk.inj ((run_openAt_toUTF8 hread).symm.trans hopen)
    obtain rfl := Except.ok.inj hs
    exact ⟨tracks_ofContents hread, rfl, rfl⟩
  · obtain ⟨rfl, hopened⟩ := of_run_openAt hnone hopen
    exact ⟨tracks_empty hopened, rfl, rfl⟩

/-- Any file of text is opened. From then on records are added to it, or to a file that was not
there, on a disk where any write may fail after any beginning of what is written. After every call
the lines that were there are still read as the same records, in the same order. Each call that
succeeded has added its own line, whole and in the order of the calls, and all other new lines are
blank or begin the lines of calls that failed. The store counts the records it found and the calls
that succeeded, and ends the last line of the file first wherever that is not ended. -/
theorem framed_of_openAt {path text : String} {tree : FileTree}
    (hfile : tree.read path = .ok text.toUTF8 ∨ tree.bytes? path = none ∧ text = "") :
    (tree.read path = .ok text.toUTF8 →
      ∃ s, (openAt path : StateM FileTree _).run tree = (.ok s, tree)) ∧
    ∀ s opened, (openAt path : StateM FileTree _).run tree = (.ok s, opened) →
      ∀ (faults : List (Option Fault)) (rs : List Record),
        let run := runSteps attempt (s, ⟨opened, faults⟩) rs
        run.1.length = rs.length ∧ ∃ now : String, run.2.2.tree.Holds path now ∧
          Framed (rs.zip run.1) (Text.lines text.toList) (Text.lines now.toList) ∧
          run.2.1.count = (Contents.recordsOf text).length + run.1.countP (·.isOk) ∧
          (run.2.1.needsSeparator ∨ Text.isTerminated now.toList) ∧
          ∀ r, let after := attempt run.2 r
            ∃ later : String, after.2.2.tree.Holds path later ∧
              Framed [(r, after.1)] (Text.lines now.toList) (Text.lines later.toList) ∧
              after.2.1.count = run.2.1.count + if after.1.isOk then 1 else 0 := by
  refine ⟨fun hread => ⟨_, run_openAt_toUTF8 hread⟩, fun s opened hopen faults rs => ?_⟩
  obtain ⟨htracks, rfl, hfound⟩ := tracks_of_run_openAt hfile hopen
  have hfaulty : s.Tracks (FaultyTree.mk opened faults).tree text := htracks
  obtain ⟨now, hnow, hframed, hpath, hcount⟩ := hfaulty.runSteps_attempt rs
  refine ⟨length_runSteps _ _ rs, now, hpath ▸ hnow.holds, hframed, hfound ▸ hcount,
    hnow.separated, fun r => ?_⟩
  obtain ⟨later, hlater, hframed', hpath', hcount'⟩ := hnow.attempt r
  exact ⟨later, hpath ▸ hpath' ▸ hlater.holds, hframed', hcount'⟩

/-- A file whose last line is torn. The first of two records is written in part, the second one as a
whole. -/
theorem framed_of_openAt_torn : ∃ (s : Store) (now : String),
    let tree : FileTree := { entries := [(["log"], .file "torn\r".toUTF8)] }
    let run := runSteps attempt (s, ⟨tree, [some (.stopped 9 (.other "disk full")), none]⟩)
      [.sample "G01" .zero, .sample "G02" .zero]
    tree.read "log" = .ok "torn\r".toUTF8 ∧
      (openAt "log" : StateM FileTree _).run tree = (.ok s, tree) ∧
      run.1.map (·.isOk) = [false, true] ∧ run.2.2.tree.Holds "log" now ∧
      Framed ([Record.sample "G01" .zero, Record.sample "G02" .zero].zip run.1) ["torn\r".toList]
        (Text.lines now.toList) ∧
      run.2.1.count = 1 := by
  have hread : ({ entries := [(["log"], .file "torn\r".toUTF8)] } : FileTree).read "log" =
      .ok "torn\r".toUTF8 := rfl
  obtain ⟨-, hruns⟩ := framed_of_openAt (.inl hread)
  have hopen := run_openAt_toUTF8 hread
  obtain ⟨-, now, hholds, hframed, hcount, -⟩ := hruns _ _ hopen
    [some (.stopped 9 (.other "disk full")), none] [.sample "G01" .zero, .sample "G02" .zero]
  refine ⟨_, now, hread, hopen, ?_, hholds, hframed, ?_⟩
  · rfl
  · rw [hcount]
    rfl

end Store

end CertaintyFactor.Session
