import CertaintyFactor.Proofs.Session.Store

/-!
# Stores with a torn tail

A file of complete lines with the beginning of one more line behind them, as a write that stopped on
the way leaves it. If the cut lies between two characters, the store opens with the complete records
and goes on behind them. A cut within a character leaves bytes that are no text, and then the whole
file cannot be read.
-/

set_option autoImplicit false

namespace CertaintyFactor.Session

namespace Store

variable {tree : FileTree} {path : String}

/-- The beginning of a record's line that was cut short between two characters is on one line, and
is no record. -/
theorem torn_line {r : Record} (hr : r.IsValid) {tail : String} {rest : ByteArray}
    (htorn : tail.toUTF8 ++ rest = r.line.toUTF8) (hrest : rest ≠ .empty) :
    Text.IsLine tail.toList ∧ (Record.parse tail).toOption = none := by
  obtain ⟨more, hmore, hne⟩ := Text.exists_toList_eq_append htorn hrest
  have hline := r.isLine_line
  rw [hmore] at hline
  have hparse := Record.parse_of_append hr hmore hne
  rw [String.ofList_toList] at hparse
  exact ⟨hline.of_append, hparse⟩

/-- Complete lines with a torn one behind them hold the records of the complete ones. -/
theorem recordsOf_torn {rs ds : List Record}
    (hdecodes : List.Forall₂ Record.DecodesAs rs ds) {tail : String}
    (hline : Text.IsLine tail.toList) (hparse : (Record.parse tail).toOption = none) :
    Contents.recordsOf (storeText rs ++ tail) = ds := by
  rw [Contents.recordsOf_append (isTerminated_storeText rs),
    Contents.recordsOf_of_isLine hline hparse, List.append_nil, recordsOf_storeText]
  induction hdecodes with
  | nil => rfl
  | cons hd _ ih =>
    rw [List.filterMap_cons, hd, ih]
    rfl

/-- A record with finite certainties that is added to a file is read back behind those it had. -/
theorem exists_add {s : Store} {text : String} (htracks : s.Tracks tree text)
    (hread : tree.read s.path = .ok text.toUTF8) {r : Record} (hr : r.IsValid)
    (hfinite : r.summary.IsFinite) :
    ∃ t new d, (s.add r : StateM FileTree _).run tree = ((.ok r, t), new) ∧
      t.count = s.count + 1 ∧ d.id = r.id ∧
      (t.readAll : StateM FileTree _).run new = (.ok (Contents.recordsOf text ++ [d]), new) := by
  obtain ⟨d, hd⟩ := Option.isSome_iff_exists.1 ((Record.isSome_reread? r).2 hfinite)
  obtain ⟨new, happend⟩ := FileTree.exists_append_of_read hread (s.written r).toUTF8
  have hadd : (s.add r : StateM FileTree _).run tree = _ := run_add s r
  rw [happend] at hadd
  obtain ⟨-, -, hnew, -⟩ := htracks.add hadd
  refine ⟨_, new, d, hadd, rfl, (Record.stamp_of_reread? hd).1, ?_⟩
  have hrecords := htracks.recordsOf_written r
  rw [Record.parse_line hr, hd, Option.toList_some] at hrecords
  rw [← hrecords]
  exact run_readAll_toUTF8 hnew

/-- A store whose file ends in a strict beginning of a record's line. If the cut is between two
characters, it opens with the records of the complete lines, and a record added then is read back
behind them. If not, the store neither opens nor can be read. -/
theorem openAt_torn {rs ds : List Record}
    (hdecodes : List.Forall₂ Record.DecodesAs rs ds) {r : Record}
    (hr : r.IsValid) {torn rest : ByteArray} (htorn : torn ++ rest = r.line.toUTF8)
    (hrest : rest ≠ .empty) (hfile : tree.read path = .ok ((storeText rs).toUTF8 ++ torn)) :
    (torn.IsValidUTF8 → ∃ s : Store,
      (openAt path : StateM FileTree _).run tree = (.ok s, tree) ∧ s.count = rs.length ∧
        (s.readAll : StateM FileTree _).run tree = (.ok ds, tree) ∧
        ∀ next : Record, next.IsValid → next.summary.IsFinite → ∃ t new d,
          (s.add next : StateM FileTree _).run tree = ((.ok next, t), new) ∧
            t.count = rs.length + 1 ∧ d.id = next.id ∧
            (t.readAll : StateM FileTree _).run new = (.ok (ds ++ [d]), new)) ∧
      (¬torn.IsValidUTF8 →
        (openAt path : StateM FileTree _).run tree = (.error (.disk path .notText), tree) ∧
          ∀ s : Store, s.path = path → (s.readAll : StateM FileTree _).run tree =
            (.error (.disk path .notText), tree)) := by
  constructor
  · intro hvalid
    obtain ⟨tail, rfl⟩ := Text.exists_toUTF8_eq hvalid
    rw [← Text.toUTF8_append] at hfile
    obtain ⟨hline, hparse⟩ := torn_line hr htorn hrest
    have hrecords := recordsOf_torn hdecodes hline hparse
    have hcount : (ofContents path (.ofText (storeText rs ++ tail))).count = rs.length :=
      (congrArg List.length hrecords).trans hdecodes.length_eq.symm
    refine ⟨_, run_openAt_toUTF8 hfile, hcount, ?_, fun next hnext hfinite => ?_⟩
    · rw [← hrecords]
      exact run_readAll_toUTF8 hfile
    · have htracks := tracks_ofContents hfile
      have hadd := exists_add htracks hfile hnext hfinite
      rwa [hcount, hrecords] at hadd
  · -- The complete lines are text, so the torn one decides whether the file is.
    intro hinvalid
    have hbytes : ¬((storeText rs).toUTF8 ++ torn).IsValidUTF8 := by
      rwa [Text.isValidUTF8_toUTF8_append_iff]
    refine ⟨run_openAt_of_invalid hfile hbytes, ?_⟩
    rintro s rfl
    exact run_readAll_of_invalid hfile hbytes

/-- The line of a record with a symptom `é`, cut between the two bytes of this letter. -/
theorem exists_torn_letter : ∃ torn rest : ByteArray,
    torn ++ rest = (Record.sample "é" .zero).line.toUTF8 ∧ rest ≠ .empty ∧ ¬torn.IsValidUTF8 := by
  have hmem : 'é' ∈ (Record.sample "é" .zero).line.toList := by
    rw [Record.toList_line]
    decide +kernel
  obtain ⟨before, after, hline⟩ := List.append_of_mem hmem
  have hletter : ['é'].utf8Encode = ByteArray.mk #[0xc3] ++ ByteArray.mk #[0xa9] := rfl
  refine ⟨before.utf8Encode ++ ByteArray.mk #[0xc3], ByteArray.mk #[0xa9] ++ after.utf8Encode,
    ?_, ?_, ?_⟩
  · rw [String.toUTF8_eq_toByteArray, ← String.utf8Encode_toList, hline, List.utf8Encode_append,
      List.utf8Encode_cons, hletter]
    simp only [ByteArray.append_assoc]
  · rw [ne_eq, ByteArray.append_eq_empty_iff, not_and_or]
    exact .inl nofun
  · rw [Text.isValidUTF8_utf8Encode_append_iff]
    decide

theorem openAt_torn_letter : ∃ (d : Record) (torn rest : ByteArray) (tree : FileTree),
    List.Forall₂ Record.DecodesAs [.sample "G01" .zero] [d] ∧
      (Record.sample "é" .zero).IsValid ∧ torn ++ rest = (Record.sample "é" .zero).line.toUTF8 ∧
      rest ≠ .empty ∧
      tree.read "log" = .ok ((storeText [.sample "G01" .zero]).toUTF8 ++ torn) ∧
      ¬torn.IsValidUTF8 ∧
      (openAt "log" : StateM FileTree _).run tree = (.error (.disk "log" .notText), tree) := by
  have hfinite : (Record.sample "G01" .zero).summary.IsFinite := ⟨by decide, nofun⟩
  obtain ⟨d, hd⟩ := Option.isSome_iff_exists.1 ((Record.isSome_reread? _).2 hfinite)
  have hdecodes : List.Forall₂ Record.DecodesAs [.sample "G01" .zero] [d] :=
    .cons (Record.decodesAs_of_reread? (Record.isValid_sample "G01" .zero) hd) .nil
  obtain ⟨torn, rest, htorn, hrest, hinvalid⟩ := exists_torn_letter
  let tree : FileTree :=
    { entries := [(["log"], .file ((storeText [.sample "G01" .zero]).toUTF8 ++ torn))] }
  have hfile : tree.read "log" = .ok ((storeText [.sample "G01" .zero]).toUTF8 ++ torn) := rfl
  have hrecord := Record.isValid_sample "é" .zero
  exact ⟨d, torn, rest, tree, hdecodes, hrecord, htorn, hrest, hfile, hinvalid,
    ((openAt_torn hdecodes hrecord htorn hrest hfile).2 hinvalid).1⟩

end Store

end CertaintyFactor.Session
