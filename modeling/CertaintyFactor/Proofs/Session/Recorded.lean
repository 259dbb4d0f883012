import CertaintyFactor.Proofs.Session.Store

/-!
# Sessions recorded in a new store

A run that adds records to a store whose file was not there. Each record is kept if all its
certainties are finite. One with a certainty that is not is counted by the store that added it, but
its line cannot be read, so it is neither among the records read back nor counted when the store is
opened again.
-/

set_option autoImplicit false

namespace CertaintyFactor.Session

/-- A run of additions that all succeed: from a store and a tree, the given records are added one
after the other with the given answers, and lead to a store and a tree. -/
inductive Recorded :
    Store → FileTree → List Record → List Record → Store → FileTree → Prop
  | nil (s : Store) (tree : FileTree) : Recorded s tree [] [] s tree
  | cons {s s' s'' : Store} {tree tree' tree'' : FileTree} {r answer : Record}
      {rs answers : List Record}
      (hadd : (s.add r : StateM FileTree _).run tree = ((.ok answer, s'), tree'))
      (hrest : Recorded s' tree' rs answers s'' tree'') :
      Recorded s tree (r :: rs) (answer :: answers) s'' tree''

namespace Recorded

variable {s t : Store} {tree new : FileTree} {rs answers : List Record} {text : String}

/-- Each record is answered as it was to be stored, and counted. -/
theorem answers_eq (h : Recorded s tree rs answers t new) (htracks : s.Tracks tree text) :
    answers = rs ∧ t.path = s.path ∧ t.count = s.count + rs.length := by
  induction h generalizing text with
  | nil => exact ⟨rfl, rfl, rfl⟩
  | cons hadd _ ih =>
    obtain ⟨rfl, rfl, -, htracks⟩ := htracks.add hadd
    obtain ⟨rfl, hpath, hcount⟩ := ih htracks
    refine ⟨rfl, hpath, hcount.trans ?_⟩
    rw [List.length_cons, Store.afterWrite, if_pos rfl]
    dsimp only
    omega

/-- After a run, a file that was there holds a text with the records that the lines are read as
behind those it had. -/
theorem exists_read (h : Recorded s tree rs answers t new) (htracks : s.Tracks tree text)
    (hread : tree.read s.path = .ok text.toUTF8) :
    ∃ longer, new.read s.path = .ok longer.toUTF8 ∧ Contents.recordsOf longer =
      Contents.recordsOf text ++ rs.filterMap fun r => (Record.parse r.line).toOption := by
  -- Each step leaves a text that the store tracks and the rest of the run starts from.
  induction h generalizing text with
  | nil => exact ⟨text, hread, (List.append_nil _).symm⟩
  | @cons _ _ _ _ _ _ r _ rs _ hadd _ ih =>
    have hrecords := htracks.recordsOf_written r
    obtain ⟨-, rfl, hread', htracks'⟩ := htracks.add hadd
    obtain ⟨longer, hlonger, hlonger'⟩ := ih htracks' hread'
    refine ⟨longer, hlonger, ?_⟩
    rw [hlonger', hrecords, List.append_assoc, List.filterMap_cons]
    cases (Record.parse r.line).toOption <;> simp

/-- After a run with at least one record this is so as well where no file was. -/
theorem exists_read_of_ne (h : Recorded s tree rs answers t new) (htracks : s.Tracks tree text)
    (hne : rs ≠ []) :
    ∃ longer, new.read s.path = .ok longer.toUTF8 ∧ Contents.recordsOf longer =
      Contents.recordsOf text ++ rs.filterMap fun r => (Record.parse r.line).toOption := by
  cases h with
  | nil => exact absurd rfl hne
  | @cons _ _ _ _ _ _ r _ rs _ hadd hrest =>
    have hrecords := htracks.recordsOf_written r
    obtain ⟨-, rfl, hread, htracks'⟩ := htracks.add hadd
    obtain ⟨longer, hlonger, hlonger'⟩ := hrest.exists_read htracks' hread
    refine ⟨longer, hlonger, ?_⟩
    rw [hlonger', hrecords, List.append_assoc, List.filterMap_cons]
    cases (Record.parse r.line).toOption <;> simp

end Recorded

/-- Where no file was, a run with at least one record leaves the records that the lines are read
as. -/
theorem exists_read_of_recorded {path : String} {tree new : FileTree} {t : Store}
    {rs answers : List Record} (hfile : tree.bytes? path = none)
    (h : Recorded { path := path } tree rs answers t new) (hne : rs ≠ []) :
    ∃ text : String, new.read path = .ok text.toUTF8 ∧
      Contents.recordsOf text = rs.filterMap fun r => (Record.parse r.line).toOption :=
  h.exists_read_of_ne (Store.tracks_empty hfile) hne

/-- Where all records are read again, they keep their identifiers and their order. -/
theorem map_id_reread? {rs : List Record} (h : ∀ r ∈ rs, r.reread?.isSome) :
    (rs.filterMap Record.reread?).map (·.id) = rs.map (·.id) := by
  induction rs with
  | nil => rfl
  | cons r rs ih =>
    obtain ⟨kept, hkept⟩ := Option.isSome_iff_exists.1 (h r List.mem_cons_self)
    rw [List.filterMap_cons, hkept, List.map_cons, List.map_cons, (Record.stamp_of_reread? hkept).1,
      ih fun r' hr' => h r' (List.mem_cons_of_mem r hr')]

/-- After a run of additions to a new store, those of its records are read back, in order, whose
certainties are all finite, and a store opened anew counts just these. The store that added them
counts all. So no record is lost if and only if all certainties are finite. -/
theorem readAll_of_recorded {path : String} {tree opened new : FileTree} {s t : Store}
    {rs answers : List Record} (hfile : tree.bytes? path = none)
    (hopen : (Store.openAt path : StateM FileTree _).run tree = (.ok s, opened))
    (hrun : Recorded s opened rs answers t new) (hne : rs ≠ []) (hvalid : ∀ r ∈ rs, r.IsValid) :
    answers = rs ∧ t.count = rs.length ∧
      ∃ kept reopened, (t.readAll : StateM FileTree _).run new = (.ok kept, new) ∧
        (Store.openAt path : StateM FileTree _).run new = (.ok reopened, new) ∧
        kept = rs.filterMap Record.reread? ∧ reopened.count = kept.length ∧
        (kept.map (·.id) = answers.map (·.id) ∧ t.count = kept.length ∧
          reopened.count = t.count ↔ ∀ r ∈ rs, r.summary.IsFinite) := by
  obtain ⟨rfl, hopened⟩ := Store.of_run_openAt hfile hopen
  obtain ⟨rfl, hpath, hcount⟩ := hrun.answers_eq (Store.tracks_empty hopened)
  obtain ⟨text, hread, htext⟩ := exists_read_of_recorded hopened hrun hne
  have hkept : Contents.recordsOf text = answers.filterMap Record.reread? :=
    htext.trans (List.filterMap_congr fun r hr => Record.parse_line (hvalid r hr))
  have hcount' : t.count = answers.length := hcount.trans (Nat.zero_add _)
  have hreopened : (Store.ofContents path (.ofText text)).count =
      (answers.filterMap Record.reread?).length := congrArg List.length hkept
  refine ⟨rfl, hcount', answers.filterMap Record.reread?, Store.ofContents path (.ofText text),
    ?_, Store.run_openAt_toUTF8 hread, rfl, hreopened, ?_⟩
  · rw [← hkept]
    exact Store.run_readAll_toUTF8 (hpath ▸ hread)
  · simp only [← Record.isSome_reread?]
    constructor
    · rintro ⟨-, hlength, -⟩
      exact List.filterMap_length_eq_length.1 (hlength.symm.trans hcount')
    · intro hall
      have hlength := List.filterMap_length_eq_length.2 hall
      exact ⟨map_id_reread? hall, hcount'.trans hlength.symm,
        hreopened.trans (hlength.trans hcount'.symm)⟩

theorem readAll_of_recorded_nan :
    FileTree.bytes? {} "log" = none ∧
      (Store.openAt "log" : StateM FileTree _).run {} = (.ok { path := "log" }, {}) ∧
      ∃ new, Recorded { path := "log" } {} [.sample "G01" 1, .sample "G02" .nan]
          [.sample "G01" 1, .sample "G02" .nan] ⟨"log", 2, false⟩ new ∧
        ∃ kept reopened, ((⟨"log", 2, false⟩ : Store).readAll : StateM FileTree _).run new =
            (.ok kept, new) ∧
          (Store.openAt "log" : StateM FileTree _).run new = (.ok reopened, new) ∧
          kept = [Record.sample "G01" 1, .sample "G02" .nan].filterMap Record.reread? ∧
          reopened.count = kept.length := by
  have hfile : FileTree.bytes? {} "log" = none := rfl
  have hopen : (Store.openAt "log" : StateM FileTree _).run {} = (.ok { path := "log" }, {}) := rfl
  refine ⟨hfile, hopen, _, .cons rfl (.cons rfl (.nil _ _)), ?_⟩
  obtain ⟨-, -, kept, reopened, hread, hreopened, hkept, hcount, -⟩ :=
    readAll_of_recorded hfile hopen (.cons rfl (.cons rfl (.nil _ _)))
      (List.cons_ne_nil (Record.sample "G01" 1) [.sample "G02" .nan])
      (by simp [Record.isValid_sample])
  exact ⟨kept, reopened, hread, hreopened, hkept, hcount⟩

end CertaintyFactor.Session
